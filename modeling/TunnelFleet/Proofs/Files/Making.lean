import Mathlib.Data.List.Induction
import TunnelFleet.Proofs.Files.Directories

/-!
# Directories that are made

Below a directory that is there, making another one and those on the way to it comes down to the
entries in their places. A vacant place becomes a directory, a directory is left as it is, and a
file stands in the way. So storing a text there, and reading it, comes down to the place of its
directory and its own place.
-/

namespace TunnelFleet.FileTree

variable {t : FileTree} {p : Path} {l dir : Location} {name a b : String}

/-! ## Trees that hang together -/

/-- Whether everything in a tree stands in a directory. -/
def Grounded (t : FileTree) : Prop :=
  ∀ l name e, t.lookup? (l ++ [name]) = some e → t.lookup? l = some .directory

/-- There is nothing below what is no directory. -/
theorem Grounded.lookup?_eq_none (h : t.Grounded) (hl : t.lookup? l ≠ some .directory)
    {way : Location} (hway : way ≠ []) : t.lookup? (l ++ way) = none := by
  induction way using List.reverseRecOn with
  | nil => exact absurd rfl hway
  | append_singleton front name ih =>
    refine Option.eq_none_iff_forall_ne_some.mpr fun e he => ?_
    rw [← List.append_assoc] at he
    have hfront := h _ _ _ he
    by_cases hempty : front = []
    · subst hempty
      exact hl (by simpa using hfront)
    · rw [ih hempty] at hfront
      cases hfront

/-- It is enough to look at the entries that there are. -/
theorem grounded_iff :
    t.Grounded ↔ ∀ x ∈ t.entries.toList, t.lookup? x.1.dropLast = some .directory := by
  constructor
  · rintro h ⟨l, e⟩ hmem
    rcases List.eq_nil_or_concat l with rfl | ⟨front, name, rfl⟩
    · rfl
    · rw [List.concat_eq_append, List.dropLast_concat]
      refine h front name e ?_
      rw [lookup?, if_neg (by simp), ← List.concat_eq_append]
      exact Std.ExtTreeMap.mem_toList_iff_getElem?_eq_some.mp hmem
  · intro h l name e he
    rw [lookup?, if_neg (by simp), ← Std.ExtTreeMap.mem_toList_iff_getElem?_eq_some] at he
    simpa using h _ he

instance (t : FileTree) : Decidable t.Grounded := decidable_of_iff _ grounded_iff.symm

/-! ## One directory -/

/-- The tree with a directory at a location, unless there is something else. -/
def ensure (t : FileTree) (l : Location) : FileTree :=
  match t.lookup? l with
  | none => t.put l .directory
  | some _ => t

@[simp] theorem workingDirectory_ensure (t : FileTree) (l : Location) :
    (t.ensure l).workingDirectory = t.workingDirectory := by
  unfold ensure
  split <;> rfl

theorem lookup?_ensure (t : FileTree) (l l' : Location) :
    (t.ensure l).lookup? l' =
      if l' = l then some ((t.lookup? l).getD .directory) else t.lookup? l' := by
  unfold ensure
  split
  · next hvacant =>
    have hl : l ≠ [] := by
      rintro rfl
      cases hvacant
    rw [lookup?_put t _ hl, hvacant]
    rfl
  · next e he =>
    split
    · next heq => rw [heq, he]; rfl
    · rfl

theorem grows_ensure (t : FileTree) (l : Location) : t.Grows (t.ensure l) := by
  unfold ensure
  split
  · next hvacant => exact .put hvacant .directory
  · exact .refl t

/-- Whether a name leads down, and is short enough for any directory. -/
structure ShortName (name : String) : Prop extends LeadsDown name where
  short : name.utf8ByteSize ≤ maxNameLength

/-- Making directories begins with the one next below. -/
theorem makeDirectories_cons (hdir : t.lookup? dir = some .directory) (hname : ShortName name)
    (rest : List String) :
    t.makeDirectories dir (name :: rest) =
      match t.lookup? (dir ++ [name]) with
      | some (.file _) => (.error (if rest.all Path.isIdle then .exists else .notADirectory), t)
      | _ => (t.ensure (dir ++ [name])).makeDirectories (dir ++ [name]) rest := by
  rw [makeDirectories, follow_of_leadsDown hdir hname.toLeadsDown,
    if_neg (Nat.not_lt.mpr hname.short)]
  cases he : t.lookup? (dir ++ [name]) with
  | none => simp only [ensure, he]
  | some e => cases e <;> simp only [ensure, he]

/-! ## Behind a path -/

/-- A walk that ends in a directory made nothing on its way. -/
theorem makeDirectories_append_of_walk {front : List String} {start : Location}
    (hwalk : front.foldlM t.follow start = .ok dir) (hdir : t.lookup? dir = some .directory)
    (rest : List String) :
    t.makeDirectories start (front ++ rest) = t.makeDirectories dir rest := by
  induction front generalizing start with
  | nil =>
    cases hwalk
    rfl
  | cons piece front ih =>
    rw [List.foldlM_cons] at hwalk
    cases hnext : t.follow start piece with
    | error fault =>
      rw [hnext] at hwalk
      cases hwalk
    | ok next =>
      rw [hnext] at hwalk
      -- The walk goes on from a directory, or ends in one.
      have hdirectory : t.lookup? next = some .directory := by
        cases front with
        | nil =>
          cases hwalk
          exact hdir
        | cons piece' front =>
          change (piece' :: front).foldlM t.follow next = .ok dir at hwalk
          rw [List.foldlM_cons] at hwalk
          cases he : t.lookup? next with
          | none =>
            simp only [follow, he] at hwalk
            cases hwalk
          | some e =>
            cases e with
            | directory => rfl
            | file content =>
              simp only [follow, he] at hwalk
              cases hwalk
      rw [List.cons_append, makeDirectories, hnext]
      simp only [hdirectory]
      exact ih hwalk

/-- The walk to a name behind a path passes the place where names are looked up behind it. -/
theorem exists_walk_of_base (hp : t.base p = .ok dir) (hname : LeadsDown name) :
    NoNul (p.child name) ∧ ∃ start front, t.origin (p.child name) = (start, front ++ [name]) ∧
      front.foldlM t.follow start = .ok dir := by
  unfold base at hp
  split at hp
  · next htext =>
    cases hp
    obtain ⟨hnul, horigin⟩ := origin_child_of_empty t htext hname
    exact ⟨hnul, t.workingDirectory, [], horigin, rfl⟩
  · next htext =>
    obtain ⟨hcheck, -, hwalk⟩ := locate_eq_ok.mp hp
    refine ⟨(noNul_child htext hname).mpr (checkPath_eq_ok.mp hcheck).1, ?_⟩
    obtain ⟨start, front, hchild, hplain | hslash⟩ := origin_child t htext name
    · rw [hplain] at hwalk
      exact ⟨start, front, hchild, hwalk⟩
    · rw [hslash, List.foldlM_append] at hwalk
      refine ⟨start, front, hchild, ?_⟩
      cases hfront : front.foldlM t.follow start with
      | error fault =>
        rw [hfront] at hwalk
        cases hwalk
      | ok here =>
        rw [hfront] at hwalk
        have hidle : t.follow here "" = .ok dir := (bind_pure _).symm.trans hwalk
        unfold follow at hidle
        split at hidle
        · cases hidle
        · cases hidle
        · exact hidle

/-- Making the directories of a path begins where its walk so far has ended. -/
theorem createDirectory_of_walk {front rest : List String} {start : Location} (hnul : NoNul p)
    (horigin : t.origin p = (start, front ++ rest)) (hwalk : front.foldlM t.follow start = .ok dir)
    (hdir : t.lookup? dir = some .directory) :
    t.createDirectory p =
      if maxPathLength < p.text.utf8ByteSize then (.error .nameTooLong, t)
      else t.makeDirectories dir rest := by
  unfold createDirectory
  rw [checkPath_of_noNul hnul, horigin]
  by_cases hlong : maxPathLength < p.text.utf8ByteSize
  · rw [if_pos hlong, if_pos hlong]
  · rw [if_neg hlong, if_neg hlong]
    exact makeDirectories_append_of_walk hwalk hdir rest

/-- The walk behind the path of an entry goes on from the name of the entry. -/
theorem origin_child_child (t : FileTree) (ha : a ≠ "") (b : String) {start : Location}
    {front : List String} (h : t.origin (p.child a) = (start, front ++ [a])) :
    t.origin ((p.child a).child b) = (start, front ++ [a, b]) := by
  obtain ⟨start', front', hchild, hplain | hslash⟩ := origin_child t (text_child_ne p ha) b
  · obtain ⟨rfl, rfl⟩ := Prod.mk.inj (h.symm.trans hplain)
    rw [hchild, List.append_assoc]
    rfl
  · -- The name of the entry is not the empty piece that a slash leaves behind.
    obtain ⟨-, hpieces⟩ := Prod.mk.inj (h.symm.trans hslash)
    exact absurd (by simpa using (List.append_inj' hpieces rfl).2) ha

theorem fits_of_fits_child (ha : ShortName a) (h : Fits (p.child a) b) : Fits p a := by
  have hlonger := h.2
  rw [text_child (text_child_ne p ha.ne_empty), String.utf8ByteSize_append,
    String.utf8ByteSize_append] at hlonger
  exact ⟨ha.short, by omega⟩

/-- The entry of a directory that is itself an entry is held by that directory. -/
theorem parent?_child_child (p : Path) (ha : LeadsDown a) (hb : LeadsDown b) :
    ((p.child a).child b).parent? = some (p.child a) := by
  have hlast : ∀ (front : List String) {name : String}, LeadsDown name →
      Path.dropIdle (front ++ [name]) = front ++ [name] := by
    intro front name hname
    cases front with
    | nil => simp [Path.dropIdle]
    | cons first front => simp [Path.dropIdle, hname.notIdle]
  unfold Path.parent?
  rw [Path.pieces_child, hlast _ hb, opened_child p ha.ne_empty]
  split
  · next hnone => simp at hnone
  · next hone =>
    have hlength := congrArg List.length hone
    simp at hlength
  · next pieces hne hne' =>
    rw [List.dropLast_concat, hlast _ ha]
    split
    · next hempty =>
      obtain ⟨-, hname⟩ : p.opened = [] ∧ a = "" := by simpa [List.append_eq_cons_iff] using hempty
      exact absurd hname ha.ne_empty
    · rfl

/-! ## Below a directory -/

/-- Whether no file stands at a location, so that it is a directory or can become one. -/
def Clear (t : FileTree) (l : Location) : Prop := ∀ content, t.lookup? l ≠ some (.file content)

theorem directory_ensure (h : t.Clear l) : (t.ensure l).lookup? l = some .directory := by
  rw [lookup?_ensure, if_pos rfl]
  cases he : t.lookup? l with
  | none => rfl
  | some e =>
    cases e with
    | directory => rfl
    | file content => exact absurd he (h content)

theorem lookup?_ensure_below (t : FileTree) (l : Location) (name : String) :
    (t.ensure l).lookup? (l ++ [name]) = t.lookup? (l ++ [name]) := by
  rw [lookup?_ensure, if_neg (by simp)]

theorem makeDirectories_of_clear (hdir : t.lookup? dir = some .directory) (hname : ShortName name)
    (hclear : t.Clear (dir ++ [name])) (rest : List String) :
    t.makeDirectories dir (name :: rest) =
      (t.ensure (dir ++ [name])).makeDirectories (dir ++ [name]) rest := by
  rw [makeDirectories_cons hdir hname]
  split
  · next content hfile => exact absurd hfile (hclear content)
  · rfl

theorem makeDirectories_of_not_clear (hdir : t.lookup? dir = some .directory)
    (hname : ShortName name) (hfile : ¬t.Clear (dir ++ [name])) (rest : List String) :
    ∃ fault, t.makeDirectories dir (name :: rest) = (.error fault, t) := by
  obtain ⟨content, hfile⟩ : ∃ content, t.lookup? (dir ++ [name]) = some (.file content) := by
    simpa [Clear] using hfile
  rw [makeDirectories_cons hdir hname, hfile]
  exact ⟨_, rfl⟩

section

variable (hp : t.base p = .ok dir) (hdir : t.lookup? dir = some .directory)
  (ha : ShortName a) (hb : ShortName b)

include hp hdir ha

theorem createDirectory_child : t.createDirectory (p.child a) =
    if Fits p a then t.makeDirectories dir [a] else (.error .nameTooLong, t) := by
  obtain ⟨hnul, start, front, horigin, hwalk⟩ := exists_walk_of_base hp ha.toLeadsDown
  rw [createDirectory_of_walk hnul horigin hwalk hdir]
  by_cases hfits : Fits p a
  · rw [if_pos hfits, if_neg (Nat.not_lt.mpr hfits.2)]
  · have hlong : maxPathLength < (p.child a).text.utf8ByteSize :=
      Nat.lt_of_not_le fun h => hfits ⟨ha.short, h⟩
    rw [if_neg hfits, if_pos hlong]

include hb

theorem createDirectory_child_child : t.createDirectory ((p.child a).child b) =
    if Fits (p.child a) b then t.makeDirectories dir [a, b] else (.error .nameTooLong, t) := by
  obtain ⟨hnul, start, front, horigin, hwalk⟩ := exists_walk_of_base hp ha.toLeadsDown
  have hnul' := (noNul_child (text_child_ne p ha.ne_empty) hb.toLeadsDown).mpr hnul
  rw [createDirectory_of_walk hnul' (origin_child_child t ha.ne_empty b horigin) hwalk hdir]
  by_cases hfits : Fits (p.child a) b
  · rw [if_pos hfits, if_neg (Nat.not_lt.mpr hfits.2)]
  · have hlong : maxPathLength < ((p.child a).child b).text.utf8ByteSize :=
      Nat.lt_of_not_le fun h => hfits ⟨hb.short, h⟩
    rw [if_neg hfits, if_pos hlong]

/-- The directory of a file is made if nothing stands in its way. -/
theorem makeParent_of_clear (hfits : Fits p a) (hclear : t.Clear (dir ++ [a])) :
    t.makeParent ((p.child a).child b) = (.ok (), t.ensure (dir ++ [a])) := by
  rw [makeParent, parent?_child_child p ha.toLeadsDown hb.toLeadsDown]
  dsimp only
  rw [createDirectory_child hp hdir ha, if_pos hfits, makeDirectories_of_clear hdir ha hclear]
  rfl

theorem makeParent_of_not (h : ¬(Fits p a ∧ t.Clear (dir ++ [a]))) :
    ∃ e, t.makeParent ((p.child a).child b) = (.error e, t) := by
  rw [makeParent, parent?_child_child p ha.toLeadsDown hb.toLeadsDown]
  dsimp only
  rw [createDirectory_child hp hdir ha]
  by_cases hfits : Fits p a
  · have hfile : ¬t.Clear (dir ++ [a]) := fun hclear => h ⟨hfits, hclear⟩
    obtain ⟨fault, hmade⟩ := makeDirectories_of_not_clear hdir ha hfile []
    rw [if_pos hfits, hmade]
    exact ⟨_, rfl⟩
  · rw [if_neg hfits]
    exact ⟨_, rfl⟩

omit hb

theorem base_child : t.base (p.child a) =
    if Fits p a then .ok (dir ++ [a]) else .error .nameTooLong := by
  rw [base, if_neg (text_child_ne p ha.ne_empty), locate_child_of_base hp hdir ha.toLeadsDown]

end

/-! ## Stored texts -/

/-- What reading a text comes to, by the entry that is read. -/
def entryText (p : Path) : Entry → Except StoreError String
  | .directory => .error (.ofFault p .isADirectory)
  | .file content =>
    match String.fromUTF8? content with
    | some text => .ok text
    | none => .error (.ofFault p .notText)

theorem loadText_at {e : Entry} (hl : t.locate p = .ok l) (he : t.lookup? l = some e) :
    t.loadText p = entryText p e := by
  unfold loadText readText read
  rw [hl]
  cases e with
  | directory =>
    simp only [he, bind, Except.bind]
    rfl
  | file content =>
    simp only [he, bind, Except.bind, entryText]
    cases String.fromUTF8? content <;> rfl

/-- The text that is stored under a path, if there is something. -/
def stored? (t : FileTree) (p : Path) : Option (Except StoreError String) :=
  if t.has p then some (t.loadText p) else none

theorem stored?_at (hl : t.locate p = .ok l) : t.stored? p = (t.lookup? l).map (entryText p) := by
  unfold stored?
  rw [has_of_locate hl]
  cases he : t.lookup? l with
  | none => rfl
  | some e => exact congrArg some (loadText_at hl he)

theorem stored?_of_not_has (h : t.has p = false) : t.stored? p = none := by
  rw [stored?, h]
  rfl

theorem writeText_at (hslash : p.endsInSlash = false) (hl : t.locate p = .ok l) (text : String) :
    t.writeText p text =
      if t.lookup? l = some .directory then .error .isADirectory
      else .ok (t.put l (.file text.toUTF8)) := by
  by_cases hdirectory : t.lookup? l = some .directory
  · simp only [writeText, write, locateFile, hslash, hl, hdirectory, bind, Except.bind,
      Bool.false_eq_true, if_false, if_true]
  · rw [if_neg hdirectory]
    exact write_eq_ok.mpr ⟨hslash, l, hl, hdirectory, rfl⟩

section

variable (hp : t.base p = .ok dir) (hdir : t.lookup? dir = some .directory)
  (ha : ShortName a) (hb : ShortName b)

include hp hdir ha hb

/-- What is stored two names below a directory is told by the entry in this place, if nothing stands
below what is no directory. -/
theorem stored?_child_child
    (hbelow : t.lookup? (dir ++ [a]) ≠ some .directory → t.lookup? (dir ++ [a] ++ [b]) = none) :
    t.stored? ((p.child a).child b) =
      if Fits (p.child a) b then
        (t.lookup? (dir ++ [a] ++ [b])).map (entryText ((p.child a).child b))
      else none := by
  have hbase := base_child hp hdir ha
  by_cases hfits : Fits (p.child a) b
  · rw [if_pos (fits_of_fits_child ha hfits)] at hbase
    rw [if_pos hfits]
    by_cases hdirectory : t.lookup? (dir ++ [a]) = some .directory
    · have hlocate := locate_child_of_base hbase hdirectory hb.toLeadsDown
      rw [if_pos hfits] at hlocate
      exact stored?_at hlocate
    · rw [hbelow hdirectory]
      refine stored?_of_not_has ?_
      cases hlocate : t.locate ((p.child a).child b) with
      | error fault => rw [has, hlocate]
      | ok l =>
        obtain ⟨dir', hbase', hdir', -⟩ := exists_base_of_locate_child hb.toLeadsDown hlocate
        obtain rfl := Except.ok.inj (hbase.symm.trans hbase')
        exact absurd hdir' hdirectory
  · rw [if_neg hfits]
    refine stored?_of_not_has ?_
    cases hlocate : t.locate ((p.child a).child b) with
    | error fault => rw [has, hlocate]
    | ok l =>
      have hshort := (checkPath_eq_ok.mp (locate_eq_ok.mp hlocate).1).2
      exact absurd ⟨hb.short, hshort⟩ hfits

/-- Storing a text two names below a directory makes a directory of the first name, and puts the
text in its place below unless that is too long or a directory. -/
theorem saveText_of_clear (hfits : Fits p a) (hclear : t.Clear (dir ++ [a])) (text : String) :
    (t.saveText ((p.child a).child b) text).2 =
      if Fits (p.child a) b ∧ t.lookup? (dir ++ [a] ++ [b]) ≠ some .directory then
        (t.ensure (dir ++ [a])).put (dir ++ [a] ++ [b]) (.file text.toUTF8)
      else t.ensure (dir ++ [a]) := by
  have hkeeps := (t.grows_ensure (dir ++ [a])).keepsDirectories
  have hbase := hkeeps.base ((base_child hp hdir ha).trans (if_pos hfits))
  have hlocate := locate_child_of_base hbase (directory_ensure hclear) hb.toLeadsDown
  have hslash : ((p.child a).child b).endsInSlash = false := endsInSlash_child hb.ne_empty
  rw [saveText, makeParent_of_clear hp hdir ha hb hfits hclear]
  dsimp only
  by_cases hfits' : Fits (p.child a) b
  · rw [if_pos hfits'] at hlocate
    rw [writeText_at hslash hlocate, lookup?_ensure_below]
    by_cases hdirectory : t.lookup? (dir ++ [a] ++ [b]) = some .directory
    · simp only [hdirectory, if_true, ne_eq, not_true_eq_false, and_false, if_false]
    · simp only [hdirectory, if_false, ne_eq, not_false_eq_true, hfits', and_self, if_true]
  · rw [if_neg hfits'] at hlocate
    rw [writeText_of_locate_error hslash hlocate, if_neg fun h => hfits' h.1]

theorem saveText_of_not (h : ¬(Fits p a ∧ t.Clear (dir ++ [a]))) (text : String) :
    (t.saveText ((p.child a).child b) text).2 = t := by
  obtain ⟨e, hparent⟩ := makeParent_of_not hp hdir ha hb h
  rw [saveText, hparent]

end

end TunnelFleet.FileTree
