import Mathlib.Logic.Function.Basic
import TunnelFleet.Proofs.Files.Making
import TunnelFleet.Proofs.Storage.Confinement
import TunnelFleet.Storage.PortFile
import TunnelFleet.Storage.Settings

/-!
# What decides on a change

A store keeps what it has at one place of the tree. What a call makes of this place, and of
everything below it, is determined by what stands there. The port file and the settings are texts
that are written anew, if at all. In the directory of the workspaces one entry is changed.
-/

namespace TunnelFleet

variable {t t' t'' u : FileTree}

namespace FileTree

variable {l l' : Location} {way : Location} {e? : Option Entry}

/-- What stands at a location and below it, by the way there from the location. -/
def below (t : FileTree) (l : Location) : Location → Option Entry := fun way => t.lookup? (l ++ way)

theorem Becomes.below (h : t.Becomes (l ++ way) e? t') :
    t'.below l = Function.update (t.below l) way e? := by
  funext way'
  rw [FileTree.below, h.lookup, Function.update_apply]
  simp only [List.append_cancel_left_eq]
  rfl

/-- A directory that was made stands at its own location only. -/
theorem becomes_ensure (h : t.Clear l) : t.Becomes l (some .directory) (t.ensure l) := by
  refine ⟨workingDirectory_ensure t l, fun other => ?_⟩
  have hplace := directory_ensure h
  rw [lookup?_ensure, if_pos rfl] at hplace
  rw [lookup?_ensure, hplace]

theorem below_ensure_elsewhere (h : ¬l' <+: l) : (t.ensure l).below l' = t.below l' := by
  funext way
  have hne : l' ++ way ≠ l := fun heq => h (heq ▸ List.prefix_append l' way)
  rw [below, lookup?_ensure, if_neg hne]
  rfl

end FileTree

/-! ## Changes of one place -/

/-- Stores a text under a path if there is one to store, by what is stored there. -/
def FileTree.rewrite (t : FileTree) (p : Path)
    (plan : Option (Except StoreError String) → Option String) : FileTree :=
  match plan (t.stored? p) with
  | some text => (t.saveText p text).2
  | none => t

namespace PortFile

variable (f : PortFile)

/-- The pins that a file holds, by what is stored. -/
def pinsOf : Option (Except StoreError String) → Except StoreError Pins
  | none => .ok ∅
  | some (.error e) => .error e
  | some (.ok text) =>
    match Pins.parse? text with
    | some pins => .ok pins
    | none => .error (.malformed f.path)

theorem list_eq (t : FileTree) : f.list t = f.pinsOf (t.stored? f.path) := by
  unfold list FileTree.stored?
  cases t.has f.path with
  | false => rfl
  | true =>
    simp only [if_true]
    cases t.loadText f.path <;> rfl

/-- The text to store for a port that is set, by what is stored. -/
def textToSet (l : LocalId) (port : UInt16) (stored? : Option (Except StoreError String)) :
    Option String :=
  match l.check, f.pinsOf stored? with
  | .ok (), .ok pins => if port == 0 then none else some (Pins.text (pins.insert l port))
  | _, _ => none

theorem exists_rewrite_set (l : LocalId) (port : UInt16) :
    ∃ plan, ∀ t, (f.set l port t).2 = t.rewrite f.path plan := by
  refine ⟨f.textToSet l port, fun t => ?_⟩
  unfold set FileTree.rewrite textToSet
  rw [f.list_eq]
  cases l.check with
  | error e => rfl
  | ok u =>
    cases f.pinsOf (t.stored? f.path) with
    | error e => cases port == 0 <;> rfl
    | ok pins => cases port == 0 <;> rfl

/-- The text to store for a port that is taken away, by what is stored. -/
def textToRemove (l : LocalId) (stored? : Option (Except StoreError String)) : Option String :=
  match f.pinsOf stored? with
  | .ok pins => if l ∈ pins then some (Pins.text (pins.erase l)) else none
  | .error _ => none

theorem exists_rewrite_remove (l : LocalId) :
    ∃ plan, ∀ t, (f.remove l t).2 = t.rewrite f.path plan := by
  refine ⟨f.textToRemove l, fun t => ?_⟩
  unfold remove FileTree.rewrite textToRemove
  rw [f.list_eq]
  cases f.pinsOf (t.stored? f.path) with
  | error e => rfl
  | ok pins =>
    by_cases hl : l ∈ pins
    · simp only [hl, if_true]
      split
      · next hwrite => exact (congrArg Prod.snd hwrite).symm
      · next hwrite => exact (congrArg Prod.snd hwrite).symm
    · simp only [hl, if_false]

end PortFile

namespace SettingsFile

variable (f : SettingsFile)

/-- The settings that a file holds, by what is stored. -/
def settingsOf : Option (Except StoreError String) → Except StoreError Settings
  | none => .ok {}
  | some (.error e) => .error e
  | some (.ok text) =>
    match Settings.parse? text with
    | some settings => .ok settings
    | none => .error (.malformed f.path)

theorem load_eq (t : FileTree) : f.load t = f.settingsOf (t.stored? f.path) := by
  unfold load FileTree.stored?
  cases t.has f.path with
  | false => rfl
  | true =>
    simp only [if_true]
    cases t.loadText f.path <;> rfl

/-- The text to store for settings that are changed, by what is stored. -/
def textToModify (change : Settings → Settings) (stored? : Option (Except StoreError String)) :
    Option String :=
  match f.settingsOf stored? with
  | .ok c => some (change c).text
  | .error _ => none

theorem exists_rewrite_modify (change : Settings → Settings) :
    ∃ plan, ∀ t, (f.modify change t).2 = t.rewrite f.path plan := by
  refine ⟨f.textToModify change, fun t => ?_⟩
  unfold modify FileTree.rewrite textToModify
  rw [f.load_eq]
  cases f.settingsOf (t.stored? f.path) with
  | error e => rfl
  | ok c => rfl

end SettingsFile

namespace WorkspaceFiles

/-- What a call makes of the directory is determined by what stands there, and nothing else is
changed. -/
theorem exists_act (d : WorkspaceFiles) (call : WorkspaceCall) :
    ∃ act : (Location → Option Entry) → Location → Option Entry, ∀ t dir,
      t.base d.directory = .ok dir → t.lookup? dir = some .directory →
        ∃ way e?, t.Becomes (dir ++ way) e? (d.perform call t).2 ∧
          (d.perform call t).2.below dir = act (t.below dir) := by
  have hsame : (∀ t, (d.perform call t).2 = t) →
      ∃ act : (Location → Option Entry) → Location → Option Entry, ∀ t dir,
        t.base d.directory = .ok dir → t.lookup? dir = some .directory →
          ∃ way e?, t.Becomes (dir ++ way) e? (d.perform call t).2 ∧
            (d.perform call t).2.below dir = act (t.below dir) := by
    intro hsame
    refine ⟨id, fun t dir _ _ => ⟨[], t.lookup? (dir ++ []), ?_⟩⟩
    rw [hsame]
    exact ⟨.same rfl, rfl⟩
  cases hcall : call.subject? with
  | none =>
    refine hsame fun t => ?_
    cases call with
    | list => rfl
    | listScope scope => rfl
    | save w => cases hcall
    | load l => cases hcall
    | remove l => cases hcall
  | some l =>
    by_cases hl : l.NameAllowed
    · obtain ⟨act, -, hact⟩ := d.exists_perform_below hcall hl
      refine ⟨fun v => Function.update v [fileName l] (act (v [fileName l])).2,
        fun t dir hbase hdir => ?_⟩
      obtain ⟨-, hbecomes⟩ := hact t dir hbase hdir
      exact ⟨[fileName l], _, hbecomes, hbecomes.below⟩
    · obtain ⟨answer, -, hanswer⟩ := exists_perform_of_not_allowed hcall hl
      exact hsame fun t => by rw [hanswer]

end WorkspaceFiles

end TunnelFleet
