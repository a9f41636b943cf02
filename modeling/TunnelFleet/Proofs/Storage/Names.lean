import TunnelFleet.Proofs.Files.Writing
import TunnelFleet.Proofs.Workspace.LocalId
import TunnelFleet.Storage.PortFile
import TunnelFleet.Storage.WorkspaceFiles

/-!
# Local ids as names of files

The stores refuse a local id that is not fit for a file, and nothing else is called an invalid
name. The part of a local id that comes from a workspace's name is always fit: only the last four
characters of the workspace's id, which are taken over as they are, can have a store refuse it.
-/

namespace TunnelFleet

/-- An answer of a store that refuses the name it was asked about. -/
def RefusesName {α : Type} (answer : Except StoreError α) : Prop :=
  ∃ reason, answer = .error (.invalidName reason)

/-- The same in the words in which the port file answers an assigner. -/
def SaysNameRefused (answer : Except StoreUnavailable Unit) : Prop :=
  ∃ reason, answer = .error ⟨(StoreError.invalidName reason).message⟩

/-- Texts that differ at one place of their beginnings are different. -/
theorem append_ne_append {p q : String} (i : ℕ) (hp : i < p.toList.length)
    (hq : i < q.toList.length) (h : p.toList[i]? ≠ q.toList[i]?) (s t : String) :
    p ++ s ≠ q ++ t := by
  intro heq
  have hchars := congrArg (·.toList[i]?) heq
  simp only [String.toList_append, List.getElem?_append_left hp,
    List.getElem?_append_left hq] at hchars
  exact h hchars

/-- No other error is told in the words of an invalid name. -/
theorem StoreError.eq_invalidName_of_message {e : StoreError} {reason : String}
    (h : e.message = (invalidName reason).message) : ∃ reason', e = .invalidName reason' := by
  have hname : (invalidName reason).message = "Invalid name: " ++ reason := rfl
  rw [hname] at h
  cases e with
  | invalidName reason' => exact ⟨reason', rfl⟩
  | homeMissing =>
    have hother : homeMissing.message = "Failed" ++ " to get home directory" := rfl
    rw [hother] at h
    exact absurd h (append_ne_append 0 (by decide) (by decide) (by decide) _ _)
  | access path fault =>
    have hother : (access path fault).message =
      "Failed to access " ++ path.quoted ++ ": " ++ fault := rfl
    rw [hother, String.append_assoc, String.append_assoc] at h
    exact absurd h (append_ne_append 0 (by decide) (by decide) (by decide) _ _)
  | malformed path =>
    have hother : (malformed path).message =
      "Failed to parse " ++ path.quoted ++ ": " ++ Json.complaint := rfl
    rw [hother, String.append_assoc, String.append_assoc] at h
    exact absurd h (append_ne_append 0 (by decide) (by decide) (by decide) _ _)
  | invalidPort port =>
    have hother : (invalidPort port).message = "Invalid port " ++ toString port.toNat := rfl
    rw [hother] at h
    exact absurd h (append_ne_append 8 (by decide) (by decide) (by decide) _ _)
  | notFound name =>
    have hother : (notFound name).message = "'" ++ name ++ "' not found" := rfl
    rw [hother, String.append_assoc] at h
    exact absurd h (append_ne_append 0 (by decide) (by decide) (by decide) _ _)

namespace FileTree

variable {t : FileTree} {p : Path} {text : String} {e : StoreError}

/-- A file that cannot be read is inaccessible. -/
theorem access_of_loadText (h : t.loadText p = .error e) : ∃ q reason, e = .access q reason := by
  obtain ⟨fault, -, rfl⟩ := mapError_eq_error.mp h
  exact ⟨p, fault.message, rfl⟩

/-- A directory that cannot be made is inaccessible. -/
theorem access_of_makeParent (h : (t.makeParent p).1 = .error e) :
    ∃ q reason, e = .access q reason := by
  unfold makeParent at h
  split at h
  · cases h
  · next directory _ =>
    obtain ⟨fault, -, rfl⟩ := mapError_eq_error.mp h
    exact ⟨directory, fault.message, rfl⟩

/-- A file that cannot be stored is inaccessible, or its directory is. -/
theorem access_of_saveText (h : (t.saveText p text).1 = .error e) :
    ∃ q reason, e = .access q reason := by
  unfold saveText at h
  split at h
  · next e' t' hparent =>
    obtain rfl := Except.error.inj h
    exact access_of_makeParent (congrArg Prod.fst hparent)
  · split at h
    · next fault _ => exact ⟨p, fault.message, (Except.error.inj h).symm⟩
    · cases h

end FileTree

/-! ## When a store refuses a name -/

/-- A workspace is refused if its local id is not fit for a file, and for no other reason in this
way. -/
theorem WorkspaceFiles.refusesName_save_iff (d : WorkspaceFiles) (w : Workspace) (t : FileTree) :
    RefusesName (d.save w t).1 ↔ ¬w.localId.NameAllowed := by
  unfold save
  by_cases hallowed : w.localId.NameAllowed
  · rw [LocalId.check_eq_ok_iff.mpr hallowed]
    refine iff_of_false (fun ⟨reason, h⟩ => ?_) (not_not.mpr hallowed)
    dsimp only at h
    cases hwrite : t.writeText (d.file w.localId) w.toJson.pretty with
    | error fault =>
      rw [hwrite] at h
      cases Except.error.inj h
    | ok t' =>
      rw [hwrite] at h
      cases h
  · obtain ⟨reason, hcheck⟩ := LocalId.check_of_not_allowed hallowed
    rw [hcheck]
    exact iff_of_true ⟨reason, rfl⟩ hallowed

namespace PortFile

variable {f : PortFile} {l : LocalId} {p : UInt16} {t : FileTree} {e : StoreError}

/-- The pins are not refused for a name. -/
theorem not_refusesName_list (f : PortFile) (t : FileTree) : ¬RefusesName (f.list t) := by
  rintro ⟨reason, h⟩
  unfold list at h
  split at h
  · cases hload : t.loadText f.path with
    | error e =>
      obtain ⟨q, why, rfl⟩ := FileTree.access_of_loadText hload
      rw [hload] at h
      cases Except.error.inj h
    | ok text =>
      simp only [hload] at h
      split at h
      · cases h
      · cases Except.error.inj h
  · cases h

/-- A pin is refused for its name if the local id is not fit for a file, whatever the port and the
file. -/
theorem refusesName_set_iff (f : PortFile) (l : LocalId) (p : UInt16) (t : FileTree) :
    RefusesName (f.set l p t).1 ↔ ¬l.NameAllowed := by
  by_cases hallowed : l.NameAllowed
  · refine iff_of_false (fun ⟨reason, h⟩ => ?_) (not_not.mpr hallowed)
    unfold set at h
    rw [LocalId.check_eq_ok_iff.mpr hallowed] at h
    dsimp only at h
    split at h
    · cases Except.error.inj h
    · cases hlist : f.list t with
      | error e =>
        simp only [hlist] at h
        exact not_refusesName_list f t ⟨reason, by rw [hlist, Except.error.inj h]⟩
      | ok pins =>
        simp only [hlist] at h
        obtain ⟨q, why, hwhy⟩ := FileTree.access_of_saveText h
        cases hwhy
  · obtain ⟨reason, hcheck⟩ := LocalId.check_of_not_allowed hallowed
    unfold set
    rw [hcheck]
    exact iff_of_true ⟨reason, rfl⟩ hallowed

/-- The same for a drawn port that the port file is offered. -/
theorem saysNameRefused_save_iff (f : PortFile) (l : LocalId) (p : UInt16) (t : FileTree) :
    SaysNameRefused (f.asStore.save t l p).1 ↔ ¬l.NameAllowed := by
  rw [← refusesName_set_iff f l p t]
  constructor
  · rintro ⟨reason, h⟩
    obtain ⟨e, he, hmessage⟩ := mapError_eq_error.mp h
    obtain ⟨reason', rfl⟩ :=
      StoreError.eq_invalidName_of_message (StoreUnavailable.mk.inj hmessage)
    exact ⟨reason', he⟩
  · rintro ⟨reason, h⟩
    exact ⟨reason, mapError_eq_error.mpr ⟨_, h, rfl⟩⟩

end PortFile

namespace LocalId

/-- A local id that is not empty is fit for a file if and only if the part from the id is. -/
theorem nameAllowed_ofNameAndId_iff {name id : String} (hne : (ofNameAndId name id).text ≠ "") :
    (ofNameAndId name id).NameAllowed ↔ ∀ c ∈ idSuffix id.toList, isNameChar c = true := by
  obtain ⟨front, hchars, hclean⟩ := exists_toList_text_eq name id
  rw [NameAllowed, hchars]
  refine ⟨fun h c hc => h.2 c (List.mem_append_right _ hc), fun h => ⟨hne, fun c hc => ?_⟩⟩
  rcases List.mem_append.mp hc with hfront | hsuffix
  · exact isNameChar_of_isCleanChar (hclean c hfront)
  · exact h c hsuffix

end LocalId

/-- Which workspaces with a local id the stores refuse for their names: those with a character
among the last four of their ids that is not fit for a file. Neither the rest of the id nor the
name of the workspace matters, and both stores refuse the same ones, whatever they hold. -/
theorem Workspace.name_refused_iff (w : Workspace) (hne : w.localId.text ≠ "") :
    let unfit := ∃ c ∈ LocalId.idSuffix w.id.toList, LocalId.isNameChar c = false
    (¬w.localId.NameAllowed ↔ unfit) ∧
    (∀ (d : WorkspaceFiles) (t : FileTree), RefusesName (d.save w t).1 ↔ unfit) ∧
    (∀ (f : PortFile) (p : UInt16) (t : FileTree), RefusesName (f.set w.localId p t).1 ↔ unfit) ∧
    ∀ (f : PortFile) (p : UInt16) (t : FileTree),
      SaysNameRefused (f.asStore.save t w.localId p).1 ↔ unfit := by
  intro unfit
  have hunfit : ¬w.localId.NameAllowed ↔ unfit := by
    rw [localId, LocalId.nameAllowed_ofNameAndId_iff hne]
    simp [unfit]
  exact ⟨hunfit, fun d t => (d.refusesName_save_iff w t).trans hunfit,
    fun f p t => (f.refusesName_set_iff _ p t).trans hunfit,
    fun f p t => (f.saysNameRefused_save_iff _ p t).trans hunfit⟩

/-- A name and an id full of odd characters, all of which are dropped or cut off. -/
theorem name_refused_iff_odd :
    let w : Workspace := { id := "../etc/1001", name := "a/b?", address := "web.example.dev" }
    w.localId.text ≠ "" ∧ w.localId.NameAllowed := by
  intro w
  have hne : w.localId.text ≠ "" := by decide +kernel
  have hfit : (LocalId.idSuffix w.id.toList).all LocalId.isNameChar = true := by decide +kernel
  obtain ⟨hunfit, -⟩ := Workspace.name_refused_iff w hne
  refine ⟨hne, not_not.mp fun hnot => ?_⟩
  obtain ⟨c, hc, hodd⟩ := hunfit.mp hnot
  rw [List.all_eq_true.mp hfit c hc] at hodd
  cases hodd

/-- The end of an id can make a local id unfit for a file. -/
theorem local_id_unfit :
    ¬∀ name id : String, (LocalId.ofNameAndId name id).text = "" ∨
      (LocalId.ofNameAndId name id).NameAllowed := by
  intro hclaim
  have h := hclaim "" "////"
  revert h
  decide +kernel

end TunnelFleet
