import TunnelFleet.Proofs.Workspace.LocalId
import TunnelFleet.Storage.SshConfig
import TunnelFleet.Text.Lines
import TunnelFleet.Workspace.Basic

/-!
# The lines of the managed ssh config

The file is put together line by line, and whoever reads it takes it apart at its line breaks. The
two agree unless a text that is put into a line holds a line break itself. What can hold one is the
user, the path of the key and the end of a workspace's id. The name of a workspace cannot.
-/

namespace TunnelFleet

namespace SshConfig

variable {c : SshConfig} {e : HostEntry} {entries : List HostEntry} {seen : List LocalId}

/-! ## The entries that are kept -/

/-- The local ids of the entries that are kept are those of all entries, without repetition, in
the order in which they first occur. -/
theorem map_localId_firstEntries (entries : List HostEntry) :
    (firstEntries [] entries).map HostEntry.localId =
      (entries.map HostEntry.localId).eraseDups := by
  have hseen : ∀ seen : List LocalId, (firstEntries seen entries).map HostEntry.localId =
      ((entries.map HostEntry.localId).filter (· ∉ seen)).eraseDups := by
    induction entries with
    | nil => exact fun _ => rfl
    | cons first entries ih =>
      intro seen
      unfold firstEntries
      by_cases hfirst : first.localId ∈ seen
      · rw [if_pos hfirst, ih seen, List.map_cons, List.filter_cons_of_neg (by simpa using hfirst)]
      · rw [if_neg hfirst, List.map_cons, ih, List.map_cons,
          List.filter_cons_of_pos (by simpa using hfirst), List.eraseDups_cons, List.filter_filter]
        congr 2
        refine List.filter_congr fun l _ => ?_
        rw [Bool.eq_iff_iff]
        simp
  simpa using hseen []

/-- An entry that is kept is the first with its local id. -/
theorem find?_of_mem_firstEntries (he : e ∈ firstEntries seen entries) :
    entries.find? (·.localId = e.localId) = some e := by
  induction entries generalizing seen with
  | nil => cases he
  | cons first entries ih =>
    unfold firstEntries at he
    split at he
    · next hfirst =>
      have hne : first.localId ≠ e.localId := fun h =>
        (mem_of_mem_firstEntries he).2 (h ▸ hfirst)
      rw [List.find?_cons_of_neg (by simpa using hne)]
      exact ih he
    · rcases List.mem_cons.mp he with rfl | he
      · exact List.find?_cons_of_pos (by simp)
      · have hne : first.localId ≠ e.localId := fun h =>
          (mem_of_mem_firstEntries he).2 (h ▸ List.mem_cons_self)
        rw [List.find?_cons_of_neg (by simpa using hne)]
        exact ih he

/-! ## Texts that stay in their lines -/

theorem no_break_of_isCleanChar {cs : List Char}
    (h : ∀ ch ∈ cs, LocalId.isCleanChar ch = true) : '\n' ∉ cs := fun hbreak =>
  absurd (h _ hbreak) (by decide)

/-- A line break in a local id comes from the end of the id of the workspace. -/
theorem break_mem_ofNameAndId_iff (name id : String) :
    '\n' ∈ (LocalId.ofNameAndId name id).text.toList ↔ '\n' ∈ LocalId.idSuffix id.toList := by
  obtain ⟨front, htext, hfront⟩ := LocalId.exists_toList_text_eq name id
  rw [htext, List.mem_append, or_iff_right (no_break_of_isCleanChar hfront)]

/-- The lines of a block stay lines exactly if there is no line break in any of the texts that are
put into them. -/
theorem no_break_block_iff : (∀ line ∈ c.block e, '\n' ∉ line.toList) ↔
    '\n' ∉ e.localId.text.toList ∧ '\n' ∉ c.user.toList ∧
      ∀ key ∈ c.identity, '\n' ∉ key.text.toList := by
  have hport : '\n' ∉ Nat.toDigits 10 e.port.toNat := fun hbreak =>
    absurd (Nat.isDigit_of_mem_toDigits (by decide) (by decide) hbreak) (by decide)
  cases hidentity : c.identity with
  | none => simp [block, hidentity, hport, toString]
  | some key => simp [block, hidentity, hport, toString]

/-- The same for the lines of the file: the entries that are not kept have the local ids of
others that are. -/
theorem no_break_lines_iff : (∀ line ∈ c.lines entries, '\n' ∉ line.toList) ↔
    ∀ e ∈ entries, '\n' ∉ e.localId.text.toList ∧ '\n' ∉ c.user.toList ∧
      ∀ key ∈ c.identity, '\n' ∉ key.text.toList := by
  have hblocks : (∀ line ∈ c.lines entries, '\n' ∉ line.toList) ↔
      ∀ e ∈ firstEntries [] entries, ∀ line ∈ c.block e, '\n' ∉ line.toList := by
    rw [lines, List.forall_mem_cons, List.forall_mem_flatMap]
    exact and_iff_right (by decide)
  rw [hblocks]
  constructor
  · intro h e he
    obtain ⟨e', he', hsame⟩ := exists_mem_firstEntries he List.not_mem_nil
    rw [← hsame]
    exact no_break_block_iff.mp (h e' he')
  · exact fun h e he => no_break_block_iff.mpr (h e (mem_of_mem_firstEntries he).1)

/-! ## The lines of the file -/

/-- What stands in the file for some workspaces and the ports of their tunnels: the header, and one
block for each local id in the order in which the local ids first occur, for the first port that is
given for it. Its lines are torn wherever there is a line break in them. None of them is torn
exactly if there is no line break in the user, in the path of the key and in the ends of the
workspaces' ids, whatever the names of the workspaces are. -/
theorem lines_whole_iff (c : SshConfig) (tunnels : List (Workspace × UInt16)) :
    let entries := tunnels.map fun tunnel => HostEntry.mk tunnel.1.localId tunnel.2
    let text := c.render entries
    ∃ kept : List HostEntry,
      kept.map HostEntry.localId = (entries.map HostEntry.localId).eraseDups ∧
      (∀ e ∈ kept, entries.find? (·.localId = e.localId) = some e) ∧
      Text.splitLines text = (header :: kept.flatMap c.block).flatMap Text.pieces ∧
      (Text.splitLines text = header :: kept.flatMap c.block ↔
        ∀ tunnel ∈ tunnels, '\n' ∉ LocalId.idSuffix tunnel.1.id.toList ∧ '\n' ∉ c.user.toList ∧
          ∀ key ∈ c.identity, '\n' ∉ key.text.toList) := by
  intro entries text
  have htext : Text.splitLines text = (c.lines entries).flatMap Text.pieces :=
    Text.splitLines_join _
  refine ⟨firstEntries [] entries, map_localId_firstEntries entries,
    fun e he => find?_of_mem_firstEntries he, htext, ?_⟩
  calc Text.splitLines text = c.lines entries
      ↔ ∀ line ∈ c.lines entries, '\n' ∉ line.toList := by
        rw [htext, Text.flatMap_pieces_eq_iff]
    _ ↔ ∀ e ∈ entries, '\n' ∉ e.localId.text.toList ∧ '\n' ∉ c.user.toList ∧
          ∀ key ∈ c.identity, '\n' ∉ key.text.toList := no_break_lines_iff
    _ ↔ _ := by
        simp only [entries, List.forall_mem_map, Workspace.localId, break_mem_ofNameAndId_iff]

/-- It is not true that the file has no other lines than the header and those of its blocks: a user
with a line break brings one along. -/
theorem user_not_confined :
    ¬∀ (c : SshConfig) (tunnels : List (Workspace × UInt16)),
      let entries := tunnels.map fun tunnel => HostEntry.mk tunnel.1.localId tunnel.2
      let localIds := (entries.map HostEntry.localId).eraseDups
      let blockLength := if c.identity.isSome then 7 else 6
      (Text.splitLines (c.render entries)).length = 1 + localIds.length * blockLength := by
  intro hclaim
  let c : SshConfig :=
    { path := .ofText "ssh_config", user := "dev\n  ProxyCommand sh", identity := none }
  let web : Workspace := { id := "1001", name := "web", address := "web.example.dev" }
  have hlength := hclaim c [(web, 4001)]
  simp only [render, Text.splitLines_join] at hlength
  exact absurd hlength (by decide +kernel)

end SshConfig

end TunnelFleet
