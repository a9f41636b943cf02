import TunnelFleet.Proofs.Storage.Names
import TunnelFleet.Proofs.Storage.WorkspaceMap

/-!
# What a call of the workspace directory can touch

Saving, loading and removing a workspace come down to one entry of the tree: the file below the
directory that bears the name of the local id. The answer is a function of this entry, and nothing
but this entry can be another one afterwards. A local id that is not fit for a file does not get so
far: its answer is the same for every tree.

A tree holds files and directories, and no links from one place to another.
-/

namespace TunnelFleet

/-- The local id that a call is about. A listing is about none. -/
def WorkspaceCall.subject? : WorkspaceCall → Option LocalId
  | .save w => some w.localId
  | .load l => some l
  | .remove l => some l
  | .list => none
  | .listScope _ => none

/-- Whether an answer refuses the name that the call was about. -/
def WorkspaceAnswer.RefusesName : WorkspaceAnswer → Prop
  | .save result => TunnelFleet.RefusesName result
  | .load result => TunnelFleet.RefusesName result
  | .remove result => TunnelFleet.RefusesName result
  | .list _ _ => False
  | .listScope _ _ => False

namespace FileTree

variable {t t' : FileTree} {place : Location} {e? : Option Entry}

/-- Whether a tree is another one with `e?` at a location, and the same everywhere else. -/
structure Becomes (t : FileTree) (place : Location) (e? : Option Entry) (t' : FileTree) :
    Prop where
  workingDirectory : t'.workingDirectory = t.workingDirectory
  lookup : ∀ other, t'.lookup? other = if other = place then e? else t.lookup? other

namespace Becomes

theorem same (h : t.lookup? place = e?) : t.Becomes place e? t :=
  ⟨rfl, fun other => by split <;> simp [*]⟩

theorem put (hplace : place ≠ []) (e : Entry) : t.Becomes place (some e) (t.put place e) :=
  ⟨rfl, lookup?_put t e hplace⟩

theorem drop (hplace : place ≠ []) : t.Becomes place none (t.drop place) :=
  ⟨rfl, lookup?_drop t hplace⟩

/-- The directories stay where they are if the one at the location does, should there be one. -/
theorem keepsDirectories (h : t.Becomes place e? t')
    (hplace : t.lookup? place = some .directory → e? = some .directory) :
    t.KeepsDirectories t' := by
  refine ⟨h.workingDirectory, fun other hother => ?_⟩
  rw [h.lookup other]
  split
  · next heq => exact hplace (heq ▸ hother)
  · exact hother

theorem elsewhere (h : t.Becomes place e? t') {other : Location} (hother : other ≠ place) :
    t'.lookup? other = t.lookup? other :=
  (h.lookup other).trans (if_neg hother)

end Becomes

end FileTree

namespace WorkspaceFiles

variable {d : WorkspaceFiles} {t : FileTree} {place dir : Location} {l : LocalId} {w : Workspace}
  {call : WorkspaceCall}

/-! ## One entry -/

/-- What saving a workspace comes to, by the entry in the place of its file, and what stands there
afterwards. A directory stands in the way. -/
def saveOver (d : WorkspaceFiles) (w : Workspace) :
    Option Entry → Except StoreError LocalId × Option Entry
  | some .directory => (.error (.ofFault (d.file w.localId) .isADirectory), some .directory)
  | _ => (.ok w.localId, some (entryOf w))

/-- What reading a workspace comes to, by the entry that is read. -/
def readEntry (p : Path) : Entry → Except StoreError Workspace
  | .directory => .error (.ofFault p .isADirectory)
  | .file content =>
    match String.fromUTF8? content with
    | none => .error (.ofFault p .notText)
    | some text =>
      match Workspace.parse? text with
      | some w => .ok w
      | none => .error (.malformed p)

/-- What loading a workspace comes to, by the entry in the place of its file. -/
def loadFrom (d : WorkspaceFiles) (l : LocalId) : Option Entry → Except StoreError Workspace
  | none => .error (.notFound l.text)
  | some e => readEntry (d.file l) e

/-- What removing a workspace comes to, by the entry in the place of its file, and what stands there
afterwards. -/
def removeFrom (d : WorkspaceFiles) (l : LocalId) :
    Option Entry → Except StoreError Unit × Option Entry
  | none => (.error (.notFound l.text), none)
  | some .directory => (.error (.ofFault (d.file l) .isADirectory), some .directory)
  | some (.file _) => (.ok (), none)

theorem save_at (hl : w.localId.NameAllowed) (hplace : t.locate (d.file w.localId) = .ok place) :
    (d.save w t).1 = (d.saveOver w (t.lookup? place)).1 ∧
      t.Becomes place (d.saveOver w (t.lookup? place)).2 (d.save w t).2 := by
  have hslash : (d.file w.localId).endsInSlash = false := d.endsInSlash_file hl
  rw [save, LocalId.check_eq_ok_iff.mpr hl]
  dsimp only
  by_cases hdirectory : t.lookup? place = some .directory
  · have hwrite : t.writeText (d.file w.localId) w.toJson.pretty = .error .isADirectory := by
      simp only [FileTree.writeText, FileTree.write, FileTree.locateFile, hslash, hplace,
        hdirectory, bind, Except.bind, Bool.false_eq_true, if_false]
    rw [hwrite, hdirectory]
    exact ⟨rfl, .same hdirectory⟩
  · have hover : d.saveOver w (t.lookup? place) = (.ok w.localId, some (entryOf w)) := by
      unfold saveOver
      split
      · next he => exact absurd he hdirectory
      · rfl
    have hwrite : t.writeText (d.file w.localId) w.toJson.pretty =
        .ok (t.put place (entryOf w)) :=
      FileTree.write_eq_ok.mpr ⟨hslash, place, hplace, hdirectory, rfl⟩
    rw [hover, hwrite]
    exact ⟨rfl, .put (FileTree.ne_root hdirectory) _⟩

theorem read_at {p : Path} {e : Entry} (hplace : t.locate p = .ok place)
    (he : t.lookup? place = some e) : read p t = readEntry p e := by
  unfold read FileTree.loadText FileTree.readText FileTree.read
  rw [hplace]
  cases e with
  | directory =>
    simp only [he, bind, Except.bind]
    rfl
  | file content =>
    simp only [he, bind, Except.bind, readEntry]
    cases String.fromUTF8? content <;> rfl

theorem load_at (hl : l.NameAllowed) (hplace : t.locate (d.file l) = .ok place) :
    d.load l t = d.loadFrom l (t.lookup? place) := by
  rw [load, LocalId.check_eq_ok_iff.mpr hl, FileTree.has_of_locate hplace]
  cases he : t.lookup? place with
  | none => rfl
  | some e => exact read_at hplace he

theorem remove_at (hl : l.NameAllowed) (hplace : t.locate (d.file l) = .ok place) :
    (d.remove l t).1 = (d.removeFrom l (t.lookup? place)).1 ∧
      t.Becomes place (d.removeFrom l (t.lookup? place)).2 (d.remove l t).2 := by
  rw [remove, LocalId.check_eq_ok_iff.mpr hl, FileTree.has_of_locate hplace]
  cases he : t.lookup? place with
  | none => exact ⟨rfl, .same he⟩
  | some e =>
    cases e with
    | directory =>
      have hremove : t.remove (d.file l) = .error .isADirectory := by
        simp only [FileTree.remove, hplace, he, bind, Except.bind]
      simp only [Option.isSome_some, if_true, hremove]
      exact ⟨rfl, .same he⟩
    | file content =>
      simp only [Option.isSome_some, if_true, FileTree.remove_of_locate hplace he]
      have hfile : t.lookup? place ≠ some .directory := by simp [he]
      exact ⟨rfl, .drop (FileTree.ne_root hfile)⟩

/-! ## Calls about one local id -/

/-- A call about a local id that is fit for a file comes down to the entry in the place of that
file. -/
theorem exists_perform_at (d : WorkspaceFiles) (hcall : call.subject? = some l)
    (hl : l.NameAllowed) :
    ∃ act : Option Entry → WorkspaceAnswer × Option Entry,
      (act (some .directory)).2 = some .directory ∧
      ∀ t place, t.locate (d.file l) = .ok place →
        (d.perform call t).1 = (act (t.lookup? place)).1 ∧
          t.Becomes place (act (t.lookup? place)).2 (d.perform call t).2 := by
  cases call with
  | save w =>
    obtain rfl : w.localId = l := Option.some.inj hcall
    refine ⟨fun e? => (.save (d.saveOver w e?).1, (d.saveOver w e?).2), rfl,
      fun t place hplace => ?_⟩
    obtain ⟨hanswer, hbecomes⟩ := d.save_at hl hplace
    dsimp only [perform]
    exact ⟨congrArg WorkspaceAnswer.save hanswer, hbecomes⟩
  | load k =>
    obtain rfl : k = l := Option.some.inj hcall
    exact ⟨fun e? => (.load (d.loadFrom k e?), e?), rfl, fun t place hplace =>
      ⟨congrArg WorkspaceAnswer.load (load_at hl hplace), .same rfl⟩⟩
  | remove k =>
    obtain rfl : k = l := Option.some.inj hcall
    refine ⟨fun e? => (.remove (d.removeFrom k e?).1, (d.removeFrom k e?).2), rfl,
      fun t place hplace => ?_⟩
    obtain ⟨hanswer, hbecomes⟩ := d.remove_at hl hplace
    dsimp only [perform]
    exact ⟨congrArg WorkspaceAnswer.remove hanswer, hbecomes⟩
  | list => cases hcall
  | listScope scope => cases hcall

/-- If no place can be found for that file, the call fails, and the answer depends on the reason
alone. -/
theorem exists_perform_of_fault (d : WorkspaceFiles) (hcall : call.subject? = some l)
    (hl : l.NameAllowed) :
    ∃ answer : Fault → WorkspaceAnswer, ∀ t fault, t.locate (d.file l) = .error fault →
      (answer fault).isOk = false ∧ d.perform call t = (answer fault, t) := by
  have hmissing : ∀ {t : FileTree} {fault : Fault}, t.locate (d.file l) = .error fault →
      t.has (d.file l) = false := fun hfault => by
    rw [FileTree.has, hfault]
  cases call with
  | save w =>
    obtain rfl : w.localId = l := Option.some.inj hcall
    refine ⟨fun fault => .save (.error (.ofFault (d.file w.localId) fault)),
      fun t fault hfault => ⟨rfl, ?_⟩⟩
    have hslash : (d.file w.localId).endsInSlash = false := d.endsInSlash_file hl
    rw [perform, save, LocalId.check_eq_ok_iff.mpr hl]
    dsimp only
    rw [FileTree.writeText_of_locate_error hslash hfault]
  | load k =>
    obtain rfl : k = l := Option.some.inj hcall
    refine ⟨fun _ => .load (.error (.notFound k.text)), fun t fault hfault => ⟨rfl, ?_⟩⟩
    rw [perform, load, LocalId.check_eq_ok_iff.mpr hl, hmissing hfault]
    rfl
  | remove k =>
    obtain rfl : k = l := Option.some.inj hcall
    refine ⟨fun _ => .remove (.error (.notFound k.text)), fun t fault hfault => ⟨rfl, ?_⟩⟩
    rw [perform, remove, LocalId.check_eq_ok_iff.mpr hl, hmissing hfault]
    rfl
  | list => cases hcall
  | listScope scope => cases hcall

/-- A call about a local id that is not fit for a file is refused in the same way by every directory
and every tree. -/
theorem exists_perform_of_not_allowed (hcall : call.subject? = some l) (hl : ¬l.NameAllowed) :
    ∃ answer : WorkspaceAnswer, answer.RefusesName ∧
      ∀ (d : WorkspaceFiles) (t : FileTree), d.perform call t = (answer, t) := by
  obtain ⟨reason, hcheck⟩ := LocalId.check_of_not_allowed hl
  cases call with
  | save w =>
    obtain rfl : w.localId = l := Option.some.inj hcall
    refine ⟨.save (.error (.invalidName reason)), ⟨reason, rfl⟩, fun d t => ?_⟩
    rw [perform, save, hcheck]
  | load k =>
    obtain rfl : k = l := Option.some.inj hcall
    refine ⟨.load (.error (.invalidName reason)), ⟨reason, rfl⟩, fun d t => ?_⟩
    rw [perform, load, hcheck]
  | remove k =>
    obtain rfl : k = l := Option.some.inj hcall
    refine ⟨.remove (.error (.invalidName reason)), ⟨reason, rfl⟩, fun d t => ?_⟩
    rw [perform, remove, hcheck]
  | list => cases hcall
  | listScope scope => cases hcall

/-- Below a directory the place of the file of a local id is known, if the system takes its path.
So a call comes down to the entry in this place, whatever else the tree holds. -/
theorem exists_perform_below (d : WorkspaceFiles) (hcall : call.subject? = some l)
    (hl : l.NameAllowed) :
    ∃ act : Option Entry → WorkspaceAnswer × Option Entry,
      (act (some .directory)).2 = some .directory ∧
      ∀ t dir, t.base d.directory = .ok dir → t.lookup? dir = some .directory →
        (d.perform call t).1 = (act (t.lookup? (dir ++ [fileName l]))).1 ∧
          t.Becomes (dir ++ [fileName l]) (act (t.lookup? (dir ++ [fileName l]))).2
            (d.perform call t).2 := by
  obtain ⟨act, hkept, hact⟩ := d.exists_perform_at hcall hl
  obtain ⟨refusal, hrefusal⟩ := d.exists_perform_of_fault hcall hl
  have hplace : ∀ (t : FileTree) (dir : Location),
      t.base d.directory = .ok dir → t.lookup? dir = some .directory → t.locate (d.file l) =
        if d.Fits l then .ok (dir ++ [fileName l]) else .error .nameTooLong :=
    fun t dir hbase hdirectory =>
      FileTree.locate_child_of_base hbase hdirectory (leadsDown_fileName hl)
  by_cases hfits : d.Fits l
  · refine ⟨act, hkept, fun t dir hbase hdirectory => ?_⟩
    exact hact t _ ((hplace t dir hbase hdirectory).trans (if_pos hfits))
  · refine ⟨fun e? => (refusal .nameTooLong, e?), rfl, fun t dir hbase hdirectory => ?_⟩
    obtain ⟨-, hrefused⟩ :=
      hrefusal t .nameTooLong ((hplace t dir hbase hdirectory).trans (if_neg hfits))
    rw [hrefused]
    exact ⟨rfl, .same rfl⟩

/-- Loading a workspace has the same answer in two trees that have the same entry in the place of
its file. -/
theorem load_alike {t t' : FileTree} (hkeeps : t.KeepsDirectories t')
    (hbase : t.base d.directory = .ok dir) (hdirectory : t.lookup? dir = some .directory)
    (hfile : t'.lookup? (dir ++ [fileName l]) = t.lookup? (dir ++ [fileName l])) :
    d.load l t' = d.load l t := by
  have hcall : (WorkspaceCall.load l).subject? = some l := rfl
  have hsame : (d.perform (.load l) t').1 = (d.perform (.load l) t).1 := by
    by_cases hl : l.NameAllowed
    · obtain ⟨act, -, hact⟩ := d.exists_perform_below hcall hl
      rw [(hact t dir hbase hdirectory).1,
        (hact t' dir (hkeeps.base hbase) (hkeeps.directory dir hdirectory)).1, hfile]
    · obtain ⟨answer, -, hanswer⟩ := exists_perform_of_not_allowed hcall hl
      rw [hanswer, hanswer]
  exact WorkspaceAnswer.load.inj hsame

/-! ## Confinement -/

/-- What saving, loading and removing a workspace can touch in any tree. If the local id is not fit
for a file, the call is refused as one about an invalid name, with an answer that does not depend
on the tree. If it is fit, the answer is a function of one entry, the one that bears the name of
the local id below the directory, and everything else in the tree stays as it was: what is not
below the directory, and the files of all other local ids, which are loaded as before. If there is
no directory, the call fails and leaves the tree as it was. -/
theorem calls_confined (d : WorkspaceFiles) (call : WorkspaceCall) (l : LocalId)
    (hcall : call.subject? = some l) :
    (¬l.NameAllowed → ∃ answer : WorkspaceAnswer, answer.RefusesName ∧
      ∀ (d : WorkspaceFiles) (t : FileTree), d.perform call t = (answer, t)) ∧
    (l.NameAllowed →
      (∃ act : Option Entry → WorkspaceAnswer × Option Entry,
        (act (some .directory)).2 = some .directory ∧
        ∀ t dir, t.base d.directory = .ok dir → t.lookup? dir = some .directory →
          let place := dir ++ [fileName l]
          let t' := (d.perform call t).2
          (d.perform call t).1 = (act (t.lookup? place)).1 ∧
          t.Becomes place (act (t.lookup? place)).2 t' ∧
          (∀ other, ¬dir <+: other → t'.lookup? other = t.lookup? other) ∧
          ∀ k ≠ l, t'.lookup? (dir ++ [fileName k]) = t.lookup? (dir ++ [fileName k]) ∧
            d.load k t' = d.load k t) ∧
      ∀ t, (∀ dir, t.base d.directory = .ok dir → t.lookup? dir ≠ some .directory) →
        (d.perform call t).1.isOk = false ∧ (d.perform call t).2 = t) := by
  refine ⟨exists_perform_of_not_allowed hcall, fun hl => ⟨?_, fun t hnone => ?_⟩⟩
  · obtain ⟨act, hkept, hact⟩ := d.exists_perform_below hcall hl
    refine ⟨act, hkept, fun t dir hbase hdirectory => ?_⟩
    obtain ⟨hanswer, hbecomes⟩ := hact t dir hbase hdirectory
    have hkeeps := hbecomes.keepsDirectories fun h => by rw [h, hkept]
    refine ⟨hanswer, hbecomes, fun other hother => ?_, fun k hk => ?_⟩
    · exact hbecomes.elsewhere fun h => hother (h ▸ List.prefix_append dir _)
    · have hother : dir ++ [fileName k] ≠ dir ++ [fileName l] := by simp [fileName_inj, hk]
      have hfile := hbecomes.elsewhere hother
      exact ⟨hfile, load_alike hkeeps hbase hdirectory hfile⟩
  · cases hplace : t.locate (d.file l) with
    | error fault =>
      obtain ⟨answer, hanswer⟩ := d.exists_perform_of_fault hcall hl
      obtain ⟨hfails, hrefused⟩ := hanswer t fault hplace
      rw [hrefused]
      exact ⟨hfails, rfl⟩
    | ok place =>
      obtain ⟨dir, hbase, hdirectory, -⟩ :=
        FileTree.exists_base_of_locate_child (leadsDown_fileName hl) hplace
      exact absurd hdirectory (hnone dir hbase)

/-- A workspace that is removed from beside another one, a name that would lead out of the
directory, and a workspace that is saved where there is no directory. -/
theorem calls_confined_neighbours :
    let d : WorkspaceFiles := ⟨⟨["", "fleet"]⟩⟩
    let web : Workspace := { id := "1001", name := "web", address := "10.0.0.1" }
    let db : Workspace := { id := "2002", name := "db", address := "10.0.0.2" }
    let t : FileTree :=
      { entries := .ofList
          [(["fleet"], .directory), (["fleet", "db-2002.json"], entryOf db),
            (["fleet", "web-1001.json"], entryOf web), (["keys.json"], .file "secret".toUTF8)]
          compare }
    let t' := (d.perform (.remove web.localId) t).2
    (t'.lookup? ["keys.json"] = t.lookup? ["keys.json"] ∧ d.load db.localId t' = .ok db) ∧
      (∃ answer : WorkspaceAnswer, answer.RefusesName ∧
        d.perform (.remove ⟨"../keys"⟩) t = (answer, t)) ∧
      (d.perform (.save web) {}).1.isOk = false := by
  intro d web db t t'
  have hbase : t.base d.directory = .ok ["fleet"] := by decide +kernel
  have hdirectory : t.lookup? ["fleet"] = some .directory := by decide +kernel
  have hvacant : ∀ dir, FileTree.base {} d.directory = .ok dir →
      FileTree.lookup? {} dir ≠ some .directory := by
    intro dir hdir
    have hnowhere : FileTree.base {} d.directory = .ok ["fleet"] := by decide +kernel
    obtain rfl : ["fleet"] = dir := Except.ok.inj (hnowhere.symm.trans hdir)
    decide +kernel
  refine ⟨?_, ?_, ?_⟩
  · obtain ⟨-, hconfined⟩ := calls_confined d (.remove web.localId) web.localId rfl
    obtain ⟨⟨act, -, hact⟩, -⟩ := hconfined (by decide +kernel)
    obtain ⟨-, -, houtside, hothers⟩ := hact t ["fleet"] hbase hdirectory
    obtain ⟨-, hload⟩ := hothers db.localId (by decide +kernel)
    refine ⟨houtside ["keys.json"] (by decide), hload.trans ?_⟩
    decide +kernel
  · obtain ⟨hrefused, -⟩ := calls_confined d (.remove ⟨"../keys"⟩) ⟨"../keys"⟩ rfl
    obtain ⟨answer, hname, hanswer⟩ := hrefused (by decide +kernel)
    exact ⟨answer, hname, hanswer d t⟩
  · obtain ⟨-, hconfined⟩ := calls_confined d (.save web) web.localId rfl
    exact ((hconfined (by decide +kernel)).2 {} hvacant).1

end WorkspaceFiles

end TunnelFleet
