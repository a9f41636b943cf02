import Mathlib.Data.List.Induction
import TunnelFleet.Proofs.Json.RoundTrip
import TunnelFleet.Storage.PortFile
import TunnelFleet.Storage.Settings
import TunnelFleet.Workspace.Codec

/-!
# Stored values as texts

A workspace, the settings and the pins are all had back from their texts, whatever characters,
numbers and local ids are in them: what is written spells a JSON value, and the value stands for
what was to be stored. Settings are read in any order of their fields.
-/

namespace TunnelFleet

namespace Workspace

/-! ## Workspaces as text -/

theorem plain_toJson (w : Workspace) : w.toJson.Plain := by
  refine Json.plain_record fun member hmember => ?_
  simp only [List.mem_cons, List.not_mem_nil, or_false] at hmember
  rcases hmember with rfl | rfl | rfl | rfl <;> exact .string _

theorem ofJson?_toJson (w : Workspace) : ofJson? w.toJson = some w := by
  have hfields : w.toJson.fields? fieldNames =
      some [some (.ofText w.id), some (.ofText w.name), some (.ofText w.address),
        some w.status.toJson] := by
    rw [toJson, Json.fields?_record]
    simp [fieldNames]
  rw [ofJson?, hfields]
  simp [Json.ofText, Json.text?, Status.toJson, Status.ofJson?]

/-- The text of a workspace spells the workspace. -/
theorem parse?_toJson (w : Workspace) : parse? w.toJson.pretty = some w := by
  rw [parse?, Json.parse?_pretty w.plain_toJson, Option.bind_some, ofJson?_toJson]

/-- So does its text on one line. -/
theorem parse?_compact (w : Workspace) : parse? w.toJson.compact = some w := by
  rw [parse?, Json.parse?_compact w.plain_toJson, Option.bind_some, ofJson?_toJson]

end Workspace

namespace Settings

/-! ## Settings as text -/

theorem plain_toJson (s : Settings) : s.toJson.Plain := by
  refine Json.plain_record fun member hmember => ?_
  simp only [List.mem_cons, List.not_mem_nil, or_false] at hmember
  rcases hmember with rfl | rfl | rfl | rfl
  · exact .string _
  · cases s.privateKey with
    | none => exact .null
    | some key => exact .string _
  · exact .ofNat _
  · exact .ofNat _

/-- The fields of written settings. -/
theorem fields?_toJson (s : Settings) : ∃ key, readPath key = some s.privateKey ∧
    s.toJson.fields? fieldNames =
      some [some (.ofText s.sshUser), some key, some (.ofNat s.retryBudget.toNat),
        some (.ofNat s.probeTimeout.toNat)] := by
  rw [toJson, Json.fields?_record]
  refine ⟨_, ?_, by simp [fieldNames]; rfl⟩
  cases s.privateKey <;> rfl

theorem ofJson?_toJson (s : Settings) : ofJson? s.toJson = some s := by
  have hbudget : (Json.ofNat s.retryBudget.toNat).nat? 4294967295 = some s.retryBudget.toNat :=
    Json.nat?_ofNat (Nat.le_sub_one_of_lt s.retryBudget.toNat_lt)
  have htimeout : (Json.ofNat s.probeTimeout.toNat).nat? 18446744073709551615 =
      some s.probeTimeout.toNat :=
    Json.nat?_ofNat (Nat.le_sub_one_of_lt s.probeTimeout.toNat_lt)
  obtain ⟨key, hkey, hfields⟩ := s.fields?_toJson
  rw [ofJson?, hfields]
  simp [orDefault, Json.ofText, Json.text?, hkey, hbudget, htimeout]

/-- The text of the settings spells the settings. -/
theorem parse?_text (s : Settings) : parse? s.text = some s := by
  rw [parse?, text, Json.parse?_pretty s.plain_toJson, Option.bind_some, ofJson?_toJson]

/-- The settings of a record depend neither on the order of its members nor on those that name no
field. -/
theorem ofJson?_congr {members members' : List (String × Json)}
    (h : (members.filter (·.1 ∈ fieldNames)).Perm (members'.filter (·.1 ∈ fieldNames))) :
    ofJson? (.record members) = ofJson? (.record members') := by
  unfold ofJson?
  rw [Json.fields?_congr h]

end Settings

namespace Pins

/-! ## Pins as text -/

/-- Pins are had back from their entries. -/
theorem ofList_toList (pins : Pins) : Std.ExtTreeMap.ofList pins.toList = pins := by
  refine Std.ExtTreeMap.ext_getElem? fun l => ?_
  cases hl : pins[l]? with
  | some p =>
    have hmem : (l, p) ∈ pins.toList := Std.ExtTreeMap.mem_toList_iff_getElem?_eq_some.mpr hl
    exact Std.ExtTreeMap.getElem?_ofList_of_mem Std.ReflCmp.compare_self
      Std.ExtTreeMap.distinct_keys_toList hmem
  | none =>
    refine Std.ExtTreeMap.getElem?_ofList_of_contains_eq_false ?_
    have hnot : l ∉ pins.keys := by
      rw [Std.ExtTreeMap.mem_keys, Std.ExtTreeMap.mem_iff_isSome_getElem?, hl]
      simp
    rw [Std.ExtTreeMap.map_fst_toList_eq_keys]
    simpa using hnot

theorem plain_toJson (pins : Pins) : pins.toJson.Plain := by
  refine Json.plain_record fun member hmember => ?_
  obtain ⟨⟨l, port⟩, -, rfl⟩ := List.mem_map.mp hmember
  exact .ofNat port.toNat

/-- An object of ports stands for the map of its entries; of a repeated key the last entry
counts. -/
theorem ofJson?_record (entries : List (LocalId × UInt16)) :
    ofJson? (.record (entries.map fun (l, port) => (l.text, .ofNat port.toNat))) =
      some (Std.ExtTreeMap.ofList entries) := by
  unfold ofJson?
  rw [Json.members?_record]
  induction entries using List.reverseRecOn with
  | nil => rfl
  | append_singleton entries entry ih =>
    obtain ⟨l, port⟩ := entry
    have hport : (Json.ofNat port.toNat).nat? 65535 = some port.toNat :=
      Json.nat?_ofNat (Nat.le_sub_one_of_lt port.toNat_lt)
    rw [Std.ExtTreeMap.ofList_eq_foldl] at ih ⊢
    simp only [Option.bind_eq_bind, Option.bind_some] at ih ⊢
    rw [List.map_append, List.foldlM_append, ih, List.foldl_append]
    simp [hport]

/-- The text of the pins spells the pins. -/
theorem parse?_text (pins : Pins) : parse? pins.text = some pins := by
  rw [parse?, text, Json.parse?_pretty pins.plain_toJson, Option.bind_some, toJson,
    ofJson?_record, ofList_toList]

end Pins

/-- Everything that is stored is read back from its text as it was. A workspace is read back from
its text on one line and from the one over several lines, with any texts and any status; settings
are read back with any texts, with or without a key, and with numbers of full width; pins are read
back with any texts for local ids. -/
theorem stored_values_read_back :
    (∀ w : Workspace, Workspace.parse? w.toJson.compact = some w ∧
      Workspace.parse? w.toJson.pretty = some w) ∧
    (∀ s : Settings, Settings.parse? s.toJson.pretty = some s) ∧
    ∀ pins : Pins, Pins.parse? pins.toJson.pretty = some pins :=
  ⟨fun w => ⟨w.parse?_compact, w.parse?_toJson⟩, Settings.parse?_text, Pins.parse?_text⟩

end TunnelFleet
