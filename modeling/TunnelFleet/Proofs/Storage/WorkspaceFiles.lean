import TunnelFleet.Proofs.Files.Directories
import TunnelFleet.Proofs.Storage.Texts
import TunnelFleet.Storage.WorkspaceFiles

/-!
# What the workspace directory holds

As long as a directory holds nothing but the files of some workspaces, each under its own local
id, a workspace is found by its local id and in the listing alike, and storing and removing a
workspace change the directory as they would change a map.
-/

namespace TunnelFleet

/-- Workspaces by their local ids. -/
abbrev Roster := Std.ExtTreeMap LocalId Workspace

namespace WorkspaceFiles

variable {d : WorkspaceFiles} {t : FileTree} {dir : Location} {roster : Roster} {l k : LocalId}
  {w : Workspace}

/-! ## Files of workspaces -/

/-- The name of the file of a workspace. -/
def fileName (l : LocalId) : String := l.text ++ "." ++ extension

theorem file_eq (d : WorkspaceFiles) (l : LocalId) : d.file l = d.directory.child (fileName l) :=
  rfl

theorem toList_fileName (l : LocalId) :
    (fileName l).toList = l.text.toList ++ ['.', 'j', 's', 'o', 'n'] := by
  simp [fileName, extension]

theorem fileName_inj : fileName l = fileName k ↔ l = k := by
  refine ⟨fun h => ?_, congrArg fileName⟩
  have htext := congrArg String.toList h
  rw [toList_fileName, toList_fileName, List.append_left_inj, String.toList_inj] at htext
  obtain ⟨_⟩ := l
  obtain ⟨_⟩ := k
  exact congrArg LocalId.mk htext

/-- The name of a workspace's file is longer than the names that lead nowhere, and it holds only
name characters and the extension. -/
theorem leadsDown_fileName (hl : l.NameAllowed) : FileTree.LeadsDown (fileName l) := by
  have hlong : ∀ name : String, name.toList.length < 5 → fileName l ≠ name := by
    rintro name hname rfl
    rw [toList_fileName, List.length_append] at hname
    simp only [List.length_cons, List.length_nil] at hname
    omega
  refine ⟨?_, hlong ".." (by decide), fun hnul => ?_⟩
  · have hempty := hlong "" (by decide)
    have hdot := hlong "." (by decide)
    simp [Path.isIdle, hempty, hdot]
  · rw [toList_fileName, List.mem_append] at hnul
    rcases hnul with hnul | hnul
    · exact absurd (hl.2 _ hnul) (by decide)
    · exact absurd hnul (by decide)

theorem endsInSlash_file (d : WorkspaceFiles) (hl : l.NameAllowed) :
    (d.file l).endsInSlash = false :=
  FileTree.endsInSlash_child (leadsDown_fileName hl).ne_empty

theorem extension?_fileName (hl : l.text ≠ "") :
    Path.extension? (fileName l) = some extension := by
  have hreverse : (fileName l).toList.reverse =
      ['n', 'o', 's', 'j', '.'] ++ l.text.toList.reverse := by
    rw [toList_fileName, List.reverse_append]
    rfl
  cases htext : l.text.toList.reverse with
  | nil => exact absurd (by simpa using htext) hl
  | cons c cs =>
    rw [Path.extension?, hreverse, htext]
    rfl

/-- What is written to the file of a workspace. -/
def entryOf (w : Workspace) : Entry := .file w.toJson.pretty.toUTF8

/-- Whether the system takes the path of the file of a workspace. -/
def Fits (d : WorkspaceFiles) (l : LocalId) : Prop := FileTree.Fits d.directory (fileName l)

instance (d : WorkspaceFiles) (l : LocalId) : Decidable (d.Fits l) :=
  inferInstanceAs (Decidable (FileTree.Fits _ _))

/-- Whether a directory holds the files of these workspaces and nothing else. -/
structure Stores (d : WorkspaceFiles) (t : FileTree) (dir : Location) (roster : Roster) : Prop where
  located : t.locate d.directory = .ok dir
  directory : t.lookup? dir = some .directory
  stored : ∀ {l w}, roster[l]? = some w → w.localId = l ∧ l.NameAllowed ∧ d.Fits l
  file : ∀ l, t.lookup? (dir ++ [fileName l]) = roster[l]?.map entryOf
  only : ∀ name e, t.lookup? (dir ++ [name]) = some e → ∃ l ∈ roster, name = fileName l

namespace Stores

/-- An empty directory holds the files of no workspaces. -/
theorem empty (h : t.names d.directory = .ok []) : ∃ dir, d.Stores t dir ∅ := by
  obtain ⟨dir, hlocated, hdirectory, hnames⟩ := FileTree.names_eq_ok.mp h
  have hchildren : t.childrenOf dir = [] := List.map_eq_nil_iff.mp hnames.symm
  have hnone : ∀ name, t.lookup? (dir ++ [name]) = none := fun name =>
    Option.eq_none_iff_forall_ne_some.mpr fun e he => by
      have hmem := FileTree.mem_childrenOf.mpr he
      rw [hchildren] at hmem
      cases hmem
  refine ⟨dir, hlocated, hdirectory, fun h => by simp at h, fun l => ?_, fun name e he => ?_⟩
  · rw [hnone]
    simp
  · rw [hnone] at he
    cases he

theorem locate_file (h : d.Stores t dir roster) (hl : l.NameAllowed) :
    t.locate (d.file l) =
      if d.Fits l then .ok (dir ++ [fileName l]) else .error .nameTooLong :=
  FileTree.locate_child h.located h.directory (leadsDown_fileName hl)

theorem locate_stored (h : d.Stores t dir roster) (hw : roster[l]? = some w) :
    t.locate (d.file l) = .ok (dir ++ [fileName l]) := by
  obtain ⟨-, hl, hfits⟩ := h.stored hw
  rw [h.locate_file hl, if_pos hfits]

/-- There is a file for a local id exactly if a workspace is stored under it. -/
theorem has_file (h : d.Stores t dir roster) (hl : l.NameAllowed) :
    t.has (d.file l) = roster[l]?.isSome := by
  cases hw : roster[l]? with
  | some w => rw [FileTree.has_of_locate (h.locate_stored hw), h.file, hw]; rfl
  | none =>
    by_cases hfits : d.Fits l
    · rw [FileTree.has_of_locate ((h.locate_file hl).trans (if_pos hfits)), h.file, hw]
      rfl
    · rw [FileTree.has, h.locate_file hl, if_neg hfits]
      rfl

theorem read_file (h : d.Stores t dir roster) (hw : roster[l]? = some w) :
    read (d.file l) t = .ok w := by
  have hfile : t.lookup? (dir ++ [fileName l]) = some (entryOf w) := by
    rw [h.file, hw]
    rfl
  rw [read, FileTree.loadText_of_file (h.locate_stored hw) hfile]
  simp only [Workspace.parse?_toJson]

/-! ## Storing and removing -/

/-- The file of a workspace takes its place among the others. -/
theorem insert (h : d.Stores t dir roster) (hl : w.localId.NameAllowed)
    (hfits : d.Fits w.localId) :
    d.Stores (t.put (dir ++ [fileName w.localId]) (entryOf w)) dir
      (roster.insert w.localId w) := by
  have hvacant : t.lookup? (dir ++ [fileName w.localId]) ≠ some .directory := by
    rw [h.file]
    cases roster[w.localId]? <;> simp [entryOf]
  have hkeeps : t.KeepsDirectories (t.put (dir ++ [fileName w.localId]) (entryOf w)) :=
    FileTree.keepsDirectories_put hvacant _
  have hlookup : ∀ name, (t.put (dir ++ [fileName w.localId]) (entryOf w)).lookup? (dir ++ [name]) =
      if name = fileName w.localId then some (entryOf w) else t.lookup? (dir ++ [name]) :=
    fun name => by simp [FileTree.lookup?_put]
  refine ⟨hkeeps.locate h.located, hkeeps.directory dir h.directory, fun {l v} hv => ?_,
    fun l => ?_, fun name e he => ?_⟩
  · rw [Std.ExtTreeMap.getElem?_insert] at hv
    split at hv
    · next heq =>
      obtain rfl := Std.LawfulEqOrd.eq_of_compare heq
      obtain rfl := Option.some.inj hv
      exact ⟨rfl, hl, hfits⟩
    · exact h.stored hv
  · rw [hlookup, Std.ExtTreeMap.getElem?_insert]
    by_cases heq : l = w.localId
    · simp [heq]
    · simp [fileName_inj, heq, Ne.symm heq, h.file]
  · rw [hlookup] at he
    split at he
    · next hname => exact ⟨w.localId, by simp, hname⟩
    · obtain ⟨l, hmem, hname⟩ := h.only name e he
      exact ⟨l, by simp [hmem], hname⟩

/-- The file of a workspace leaves its place among the others. -/
theorem erase (h : d.Stores t dir roster) (hw : roster[l]? = some w) :
    d.Stores (t.drop (dir ++ [fileName l])) dir (roster.erase l) := by
  have hfile : t.lookup? (dir ++ [fileName l]) = some (entryOf w) := by
    rw [h.file, hw]
    rfl
  have hkeeps := FileTree.keepsDirectories_drop hfile
  have hlookup : ∀ name, (t.drop (dir ++ [fileName l])).lookup? (dir ++ [name]) =
      if name = fileName l then none else t.lookup? (dir ++ [name]) :=
    fun name => by simp [FileTree.lookup?_drop]
  refine ⟨hkeeps.locate h.located, hkeeps.directory dir h.directory, fun {k v} hv => ?_,
    fun k => ?_, fun name e he => ?_⟩
  · rw [Std.ExtTreeMap.getElem?_erase] at hv
    split at hv
    · cases hv
    · exact h.stored hv
  · rw [hlookup, Std.ExtTreeMap.getElem?_erase]
    by_cases heq : k = l
    · simp [heq]
    · simp [fileName_inj, heq, Ne.symm heq, h.file]
  · rw [hlookup] at he
    split at he
    · cases he
    · next hne =>
      obtain ⟨k, hmem, rfl⟩ := h.only name e he
      have hk : l ≠ k := fun heq => hne (heq ▸ rfl)
      exact ⟨k, by simp [hk, hmem], rfl⟩

end Stores

end WorkspaceFiles

end TunnelFleet
