import TunnelFleet.Storage.Error

/-!
# Files that are written

A path leads to the same place as before as long as the directories stay where they are.
So a file that was written is found under its path. Directories that are made on the way,
also before a write that fails, leave everything that was there as it was.
-/

namespace TunnelFleet

/-- A result stays a result when errors are told in another way. -/
theorem mapError_eq_ok {ε ε' α : Type} {f : ε → ε'} {x : Except ε α} {a : α} :
    x.mapError f = .ok a ↔ x = .ok a := by
  cases x with
  | error e => exact iff_of_false (fun h => by cases h) (fun h => by cases h)
  | ok b => exact ⟨fun h => congrArg _ (Except.ok.inj h), fun h => congrArg _ (Except.ok.inj h)⟩

theorem mapError_eq_error {ε ε' α : Type} {f : ε → ε'} {x : Except ε α} {e' : ε'} :
    x.mapError f = .error e' ↔ ∃ e, x = .error e ∧ f e = e' := by
  cases x with
  | error e =>
    refine ⟨fun h => ⟨e, rfl, Except.error.inj h⟩, ?_⟩
    rintro ⟨_, ⟨⟩, rfl⟩
    rfl
  | ok a => exact iff_of_false (fun h => by cases h) (fun ⟨_, h, _⟩ => by cases h)

namespace FileTree

variable {t t' t'' : FileTree} {p : Path} {l : Location} {text : String}

/-- What is no directory is not the root. -/
theorem ne_root (hl : t.lookup? l ≠ some .directory) : l ≠ [] := by
  rintro rfl
  exact hl rfl

/-! ## Paths that lead to the same place -/

theorem locate_eq_ok : t.locate p = .ok l ↔
    checkPath p = .ok () ∧ p.text ≠ "" ∧ (t.origin p).2.foldlM t.follow (t.origin p).1 = .ok l := by
  unfold locate
  cases checkPath p with
  | error e => simp [bind, Except.bind]
  | ok u =>
    by_cases htext : p.text = ""
    · simp [htext, bind, Except.bind]
    · simp [htext, bind, Except.bind]

/-- A text is read if it stands in a file, and the path leads there. -/
theorem loadText_eq_ok : t.loadText p = .ok text ↔
    ∃ l content, t.locate p = .ok l ∧ t.lookup? l = some (.file content) ∧
      String.fromUTF8? content = some text := by
  unfold loadText readText read
  rw [mapError_eq_ok]
  cases t.locate p with
  | error e => simp [bind, Except.bind]
  | ok l =>
    cases hl : t.lookup? l with
    | none => simp [hl, bind, Except.bind]
    | some e =>
      cases e with
      | directory => simp [hl, bind, Except.bind]
      | file content =>
        cases hcontent : String.fromUTF8? content <;> simp [hl, hcontent, bind, Except.bind]

/-- A text is read from the file that its bytes were written to. -/
theorem loadText_of_file (hlocate : t.locate p = .ok l)
    (hfile : t.lookup? l = some (.file text.toUTF8)) : t.loadText p = .ok text := by
  have htext : String.fromUTF8? text.toUTF8 = some text := dif_pos text.isValidUTF8
  exact loadText_eq_ok.mpr ⟨l, text.toUTF8, hlocate, hfile, htext⟩

/-- Whether every directory of a tree is a directory of another one, and relative paths start
at the same place. -/
structure KeepsDirectories (t t' : FileTree) : Prop where
  workingDirectory : t'.workingDirectory = t.workingDirectory
  directory : ∀ l, t.lookup? l = some .directory → t'.lookup? l = some .directory

namespace KeepsDirectories

theorem trans (h : t.KeepsDirectories t') (h' : t'.KeepsDirectories t'') :
    t.KeepsDirectories t'' where
  workingDirectory := h'.workingDirectory.trans h.workingDirectory
  directory l hl := h'.directory l (h.directory l hl)

theorem origin (h : t.KeepsDirectories t') (p : Path) : t'.origin p = t.origin p := by
  unfold FileTree.origin
  rw [h.workingDirectory]

/-- Only a directory is gone through, so a step leads where it led before. -/
theorem follow (h : t.KeepsDirectories t') {here next : Location} {piece : String}
    (hfollow : t.follow here piece = .ok next) : t'.follow here piece = .ok next := by
  unfold FileTree.follow at hfollow ⊢
  split at hfollow
  · cases hfollow
  · cases hfollow
  · next hhere =>
    rw [h.directory here hhere]
    exact hfollow

theorem foldlM_follow (h : t.KeepsDirectories t') {pieces : List String} {here : Location}
    (hl : pieces.foldlM t.follow here = .ok l) : pieces.foldlM t'.follow here = .ok l := by
  induction pieces generalizing here with
  | nil => exact hl
  | cons piece pieces ih =>
    rw [List.foldlM_cons] at hl ⊢
    cases hnext : t.follow here piece with
    | error e =>
      rw [hnext] at hl
      cases hl
    | ok next =>
      rw [hnext] at hl
      rw [h.follow hnext]
      exact ih hl

/-- A path leads where it led before. -/
theorem locate (h : t.KeepsDirectories t') (hl : t.locate p = .ok l) : t'.locate p = .ok l := by
  obtain ⟨hcheck, htext, hsteps⟩ := locate_eq_ok.mp hl
  rw [← h.origin p] at hsteps
  exact locate_eq_ok.mpr ⟨hcheck, htext, h.foldlM_follow hsteps⟩

end KeepsDirectories

/-! ## Trees that grow -/

/-- Whether everything in a tree is in another one at the same place. -/
structure Grows (t t' : FileTree) : Prop where
  workingDirectory : t'.workingDirectory = t.workingDirectory
  entry : ∀ l e, t.lookup? l = some e → t'.lookup? l = some e

namespace Grows

theorem refl (t : FileTree) : t.Grows t := ⟨rfl, fun _ _ h => h⟩

theorem trans (h : t.Grows t') (h' : t'.Grows t'') : t.Grows t'' where
  workingDirectory := h'.workingDirectory.trans h.workingDirectory
  entry l e he := h'.entry l e (h.entry l e he)

theorem keepsDirectories (h : t.Grows t') : t.KeepsDirectories t' :=
  ⟨h.workingDirectory, fun l => h.entry l .directory⟩

/-- A vacant location can be filled. -/
theorem put (hvacant : t.lookup? l = none) (e : Entry) : t.Grows (t.put l e) := by
  have hl : l ≠ [] := by
    rintro rfl
    cases hvacant
  refine ⟨rfl, fun l' e' he' => ?_⟩
  rw [lookup?_put t e hl, if_neg ?_]
  · exact he'
  · rintro rfl
    rw [hvacant] at he'
    cases he'

theorem makeDirectories (t : FileTree) (here : Location) (pieces : List String) :
    t.Grows (t.makeDirectories here pieces).2 := by
  induction pieces generalizing t here with
  | nil => exact refl t
  | cons piece pieces ih =>
    unfold FileTree.makeDirectories
    split
    · exact refl t
    · next next _ =>
      split
      · next hvacant => exact (put hvacant .directory).trans (ih _ next)
      · exact ih t next
      · exact refl t

theorem createDirectory (t : FileTree) (p : Path) : t.Grows (t.createDirectory p).2 := by
  unfold FileTree.createDirectory
  split
  · exact refl t
  · exact makeDirectories t _ _

theorem makeParent (t : FileTree) (p : Path) : t.Grows (t.makeParent p).2 := by
  unfold FileTree.makeParent
  split
  · exact refl t
  · exact createDirectory t _

/-- A file that could be read still reads the same. -/
theorem loadText (h : t.Grows t') (htext : t.loadText p = .ok text) :
    t'.loadText p = .ok text := by
  obtain ⟨l, content, hlocate, hfile, hcontent⟩ := loadText_eq_ok.mp htext
  exact loadText_eq_ok.mpr
    ⟨l, content, h.keepsDirectories.locate hlocate, h.entry l _ hfile, hcontent⟩

theorem has (h : t.Grows t') (hhas : t.has p = true) : t'.has p = true := by
  unfold FileTree.has at hhas ⊢
  cases hl : t.locate p with
  | error e =>
    rw [hl] at hhas
    cases hhas
  | ok l =>
    rw [hl] at hhas
    rw [h.keepsDirectories.locate hl]
    obtain ⟨e, he⟩ := Option.isSome_iff_exists.mp hhas
    exact Option.isSome_iff_exists.mpr ⟨e, h.entry l e he⟩

end Grows

/-! ## Files that stay as they are -/

/-- Whether two trees hold the same files. -/
def SameFiles (t t' : FileTree) : Prop :=
  ∀ l content, t'.lookup? l = some (.file content) ↔ t.lookup? l = some (.file content)

namespace SameFiles

theorem refl (t : FileTree) : t.SameFiles t := fun _ _ => Iff.rfl

theorem trans (h : t.SameFiles t') (h' : t'.SameFiles t'') : t.SameFiles t'' :=
  fun l content => (h' l content).trans (h l content)

/-- A directory at a vacant location is no file. -/
theorem putDirectory (hvacant : t.lookup? l = none) : t.SameFiles (t.put l .directory) := by
  have hl : l ≠ [] := by
    rintro rfl
    cases hvacant
  intro l' content
  rw [lookup?_put t _ hl]
  split
  · next heq => simp [heq, hvacant]
  · rfl

theorem makeDirectories (t : FileTree) (here : Location) (pieces : List String) :
    t.SameFiles (t.makeDirectories here pieces).2 := by
  induction pieces generalizing t here with
  | nil => exact refl t
  | cons piece pieces ih =>
    unfold FileTree.makeDirectories
    split
    · exact refl t
    · next next _ =>
      split
      · next hvacant => exact (putDirectory hvacant).trans (ih _ next)
      · exact ih t next
      · exact refl t

theorem createDirectory (t : FileTree) (p : Path) : t.SameFiles (t.createDirectory p).2 := by
  unfold FileTree.createDirectory
  split
  · exact refl t
  · exact makeDirectories t _ _

theorem makeParent (t : FileTree) (p : Path) : t.SameFiles (t.makeParent p).2 := by
  unfold FileTree.makeParent
  split
  · exact refl t
  · exact createDirectory t _

end SameFiles

/-! ## Texts that are written and read -/

/-- A file takes the place of no directory. -/
theorem keepsDirectories_put (hl : t.lookup? l ≠ some .directory) (content : ByteArray) :
    t.KeepsDirectories (t.put l (.file content)) := by
  refine ⟨rfl, fun l' hl' => ?_⟩
  rw [lookup?_put t _ (ne_root hl), if_neg ?_]
  · exact hl'
  · rintro rfl
    exact hl hl'

/-- What a file is written to: the location that its path names, which is no directory. -/
theorem write_eq_ok {content : ByteArray} : t.write p content = .ok t' ↔
    p.endsInSlash = false ∧
      ∃ l, t.locate p = .ok l ∧ t.lookup? l ≠ some .directory ∧ t' = t.put l (.file content) := by
  unfold write locateFile
  cases p.endsInSlash with
  | true => cases t.locate p.dropSlash <;> simp [bind, Except.bind]
  | false =>
    cases t.locate p with
    | error e => simp [bind, Except.bind]
    | ok l =>
      simp only [bind, Except.bind, Bool.false_eq_true, if_false, true_and, Except.ok.injEq,
        exists_eq_left']
      split
      · next hdirectory => simp [hdirectory]
      · next hne =>
        rw [Except.ok.injEq, eq_comm]
        exact ⟨fun h => ⟨hne, h⟩, fun h => h.2⟩

/-- A text that was written is there, and can be read. -/
theorem loadText_writeText (h : t.writeText p text = .ok t') :
    t'.has p = true ∧ t'.loadText p = .ok text := by
  obtain ⟨-, l, hlocate, hl, rfl⟩ := write_eq_ok.mp h
  have hfile : (t.put l (.file text.toUTF8)).lookup? l = some (.file text.toUTF8) := by
    rw [lookup?_put t _ (ne_root hl), if_pos rfl]
  have hlocate' := (keepsDirectories_put hl text.toUTF8).locate hlocate
  refine ⟨?_, loadText_of_file hlocate' hfile⟩
  rw [has, hlocate']
  exact Option.isSome_iff_exists.mpr ⟨_, hfile⟩

/-- A stored text is written after the directory that it belongs in was made, or storing it
fails, and only the directories are made. -/
theorem saveText_eq_or (t : FileTree) (p : Path) (text : String) :
    (∃ t' t'', t.makeParent p = (.ok (), t') ∧ t'.writeText p text = .ok t'' ∧
      t.saveText p text = (.ok (), t'')) ∨
    ∃ e, t.saveText p text = (.error e, (t.makeParent p).2) := by
  unfold saveText
  cases hparent : t.makeParent p with
  | mk made t' =>
    cases made with
    | error e => exact .inr ⟨e, rfl⟩
    | ok u =>
      dsimp only
      cases hwrite : t'.writeText p text with
      | error fault => exact .inr ⟨_, rfl⟩
      | ok t'' => exact .inl ⟨t', t'', rfl, hwrite, rfl⟩

/-- A stored text is found under its path afterwards, unless storing it fails; then at most
directories have been made. -/
theorem saveText_cases (t : FileTree) (p : Path) (text : String) :
    ((t.saveText p text).1 = .ok () ∧ (t.saveText p text).2.has p = true ∧
      (t.saveText p text).2.loadText p = .ok text) ∨
    ∃ e, (t.saveText p text).1 = .error e ∧ t.Grows (t.saveText p text).2 := by
  obtain ⟨t', t'', -, hwrite, hsave⟩ | ⟨e, hsave⟩ := t.saveText_eq_or p text
  · rw [hsave]
    exact .inl ⟨rfl, loadText_writeText hwrite⟩
  · rw [hsave]
    exact .inr ⟨e, rfl, Grows.makeParent t p⟩

/-- A text that could not be stored leaves every file as it was. -/
theorem sameFiles_saveText {e : StoreError} (h : (t.saveText p text).1 = .error e) :
    t.SameFiles (t.saveText p text).2 := by
  obtain ⟨t', t'', -, -, hsave⟩ | ⟨e', hsave⟩ := t.saveText_eq_or p text
  · rw [hsave] at h
    cases h
  · rw [hsave]
    exact .makeParent t p

/-! ## Texts that are written again -/

/-- Directories that were made need not be made again. -/
theorem makeDirectories_again {here : Location} {pieces : List String}
    (h : t.makeDirectories here pieces = (.ok (), t')) (hkeeps : t'.KeepsDirectories t'') :
    t''.makeDirectories here pieces = (.ok (), t'') := by
  have hgrows := Grows.makeDirectories t here pieces
  rw [h] at hgrows
  induction pieces generalizing t here with
  | nil => rfl
  | cons piece pieces ih =>
    unfold makeDirectories at h
    -- The next piece leads to the same location, where there is a directory by now.
    have hrest : ∀ {s : FileTree} {next : Location},
        t.follow here piece = .ok next → s.lookup? next = some .directory →
          s.makeDirectories next pieces = (.ok (), t') →
            t''.makeDirectories here (piece :: pieces) = (.ok (), t'') := by
      intro s next hfollow hnext hmade
      have hgrows' := Grows.makeDirectories s next pieces
      rw [hmade] at hgrows'
      rw [makeDirectories, (hgrows.keepsDirectories.trans hkeeps).follow hfollow]
      dsimp only
      rw [hkeeps.directory next (hgrows'.entry next _ hnext)]
      exact ih hmade hgrows'
    split at h
    · cases h
    · next next hfollow =>
      split at h
      · next hvacant =>
        refine hrest hfollow ?_ h
        rw [lookup?_put t _ ?_, if_pos rfl]
        rintro rfl
        cases hvacant
      · next hdirectory => exact hrest hfollow hdirectory h
      · cases h

theorem makeParent_again (h : t.makeParent p = (.ok (), t')) (hkeeps : t'.KeepsDirectories t'') :
    t''.makeParent p = (.ok (), t'') := by
  have hall := (Grows.makeParent t p).keepsDirectories
  rw [h] at hall
  unfold makeParent at h ⊢
  split at h
  · rfl
  · next directory _ =>
    unfold createDirectory at h ⊢
    cases hcheck : checkPath directory with
    | error fault =>
      rw [hcheck] at h
      cases h
    | ok u =>
      rw [hcheck] at h
      dsimp only at h ⊢
      rw [(hall.trans hkeeps).origin directory]
      cases hmade : t.makeDirectories (t.origin directory).1 (t.origin directory).2 with
      | mk made s =>
        rw [hmade] at h
        cases made with
        | error fault => cases h
        | ok u =>
          cases h
          rw [makeDirectories_again hmade hkeeps]
          rfl

/-- Where one text could be stored, any other text can be. -/
theorem saveText_instead (h : (t.saveText p text).1 = .ok ()) (text' : String) :
    (t.saveText p text').1 = .ok () := by
  obtain ⟨t', t'', hparent, hwrite, -⟩ | ⟨e, hsave⟩ := t.saveText_eq_or p text
  · obtain ⟨hslash, l, hlocate, hl, -⟩ := write_eq_ok.mp hwrite
    have hwrite' : t'.writeText p text' = .ok (t'.put l (.file text'.toUTF8)) :=
      write_eq_ok.mpr ⟨hslash, l, hlocate, hl, rfl⟩
    simp only [saveText, hparent, hwrite']
  · rw [hsave] at h
    cases h

/-- Of two entries put at one location only the second one counts. -/
theorem put_put (t : FileTree) (l : Location) (e e' : Entry) :
    (t.put l e).put l e' = t.put l e' := by
  have hentries : (t.entries.insert l e).insert l e' = t.entries.insert l e' := by
    refine Std.ExtTreeMap.ext_getElem? fun other => ?_
    simp only [Std.ExtTreeMap.getElem?_insert]
    split <;> rfl
  simp only [put, hentries]

/-- Of two texts stored in one place only the second one counts. -/
theorem saveText_saveText (h : (t.saveText p text).1 = .ok ()) (text' : String) :
    (t.saveText p text).2.saveText p text' = t.saveText p text' := by
  obtain ⟨t', t'', hparent, hwrite, hsave⟩ | ⟨e, hsave⟩ := t.saveText_eq_or p text
  · obtain ⟨hslash, l, hlocate, hl, rfl⟩ := write_eq_ok.mp hwrite
    have hkeeps := keepsDirectories_put hl text.toUTF8
    have hfile : (t'.put l (.file text.toUTF8)).lookup? l ≠ some .directory := by
      rw [lookup?_put t' _ (ne_root hl), if_pos rfl]
      simp
    have hfirst : t'.writeText p text' = .ok (t'.put l (.file text'.toUTF8)) :=
      write_eq_ok.mpr ⟨hslash, l, hlocate, hl, rfl⟩
    have hsecond : (t'.put l (.file text.toUTF8)).writeText p text' =
        .ok ((t'.put l (.file text.toUTF8)).put l (.file text'.toUTF8)) :=
      write_eq_ok.mpr ⟨hslash, l, hkeeps.locate hlocate, hfile, rfl⟩
    rw [hsave]
    simp only [saveText, hparent, makeParent_again hparent hkeeps, hfirst, hsecond, put_put]
  · rw [hsave] at h
    cases h

/-- Where a text was stored, another text can be stored next. -/
theorem saveText_again (h : (t.saveText p text).1 = .ok ()) (text' : String) :
    ((t.saveText p text).2.saveText p text').1 = .ok () := by
  rw [saveText_saveText h]
  exact saveText_instead h text'

end FileTree

end TunnelFleet
