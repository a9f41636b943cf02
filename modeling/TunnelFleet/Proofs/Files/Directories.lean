import TunnelFleet.Proofs.Files.Writing

/-!
# Files in a directory

A name leads from a directory to the entry of this name, as long as the system does not find
the name or the whole path too long. The path of the directory may end in a slash, or be empty.
The names in a directory are those that lead to an entry, each of them once.
-/

namespace TunnelFleet.FileTree

variable {t t' : FileTree} {p : Path} {l : Location} {name : String}

/-! ## From a directory to its entries -/

/-- Whether a name leads down from a directory, to whatever stands there. -/
structure LeadsDown (name : String) : Prop where
  notIdle : Path.isIdle name = false
  notUp : name ≠ ".."
  noNul : Char.ofNat 0 ∉ name.toList

theorem LeadsDown.ne_empty (h : LeadsDown name) : name ≠ "" := by
  rintro rfl
  cases h.notIdle

/-- Whether the system takes the path of an entry in a directory: neither the name nor the path is
too long for it. -/
def Fits (p : Path) (name : String) : Prop :=
  name.utf8ByteSize ≤ maxNameLength ∧ (p.child name).text.utf8ByteSize ≤ maxPathLength

instance (p : Path) (name : String) : Decidable (Fits p name) :=
  inferInstanceAs (Decidable (_ ∧ _))

/-- A path that is not empty has pieces that others are put behind, and at most a slash after
them. -/
theorem opened_cases (htext : p.text ≠ "") : p.opened ≠ [] ∧
    (p.endsInSlash = false ∧ p.pieces = p.opened ∨
      p.endsInSlash = true ∧ p.pieces = p.opened ++ [""]) := by
  by_cases hlast : p.pieces.getLast? = some ""
  · obtain ⟨front, hfront⟩ := List.getLast?_eq_some_iff.mp hlast
    have hopened : p.opened = front := by
      rw [Path.opened, hfront]
      simp
    have hne : front ≠ [] := by
      rintro rfl
      exact htext (by rw [Path.text, hfront]; rfl)
    have hlength := List.length_pos_iff.mpr hne
    have hslash : p.endsInSlash = true := by
      rw [Path.endsInSlash, hfront]
      simp
      omega
    exact ⟨hopened ▸ hne, .inr ⟨hslash, hopened ▸ hfront⟩⟩
  · have hopened : p.opened = p.pieces := by
      rw [Path.opened, if_neg (by simpa using hlast)]
    have hslash : p.endsInSlash = false := by
      simp [Path.endsInSlash, hlast]
    have hne : p.pieces ≠ [] := fun h => htext (by simp [Path.text, h])
    exact ⟨hopened ▸ hne, .inl ⟨hslash, hopened.symm⟩⟩

/-- A path that is not empty gives way to a slash, unless it ends in one, and the name. -/
theorem text_child (htext : p.text ≠ "") (name : String) :
    (p.child name).text = p.text ++ (if p.endsInSlash then "" else "/") ++ name := by
  obtain ⟨hne, hcases⟩ := opened_cases htext
  have hbehind : ∀ piece : String,
      "/".intercalate (p.opened ++ [piece]) = "/".intercalate p.opened ++ "/" ++ piece :=
    fun piece => by
      rw [String.intercalate_append_of_ne_nil hne (by simp), String.intercalate_singleton]
  rw [Path.text, Path.pieces_child, hbehind, Path.text]
  obtain ⟨hslash, hpieces⟩ | ⟨hslash, hpieces⟩ := hcases
  · rw [hslash, hpieces]
    rfl
  · rw [hslash, hpieces, hbehind]
    simp

/-- The walk to an entry has the pieces of the walk to its directory, less a slash at the end, and
the name. -/
theorem origin_child (t : FileTree) (htext : p.text ≠ "") (name : String) :
    ∃ start front, t.origin (p.child name) = (start, front ++ [name]) ∧
      (t.origin p = (start, front) ∨ t.origin p = (start, front ++ [""])) := by
  obtain ⟨hne, hcases⟩ := opened_cases htext
  obtain ⟨first, rest, hopened⟩ := List.exists_cons_of_ne_nil hne
  have habsolute : (p.child name).isAbsolute = p.isAbsolute := by
    obtain ⟨-, hpieces⟩ | ⟨-, hpieces⟩ := hcases
    · cases rest with
      | nil =>
        have hfirst : first ≠ "" := fun h => htext (by simp [Path.text, hpieces, hopened, h])
        simp [Path.isAbsolute, hpieces, hopened, hfirst]
      | cons second rest => simp [Path.isAbsolute, hpieces, hopened]
    · simp [Path.isAbsolute, hpieces, hopened]
  unfold origin
  rw [habsolute, Path.pieces_child]
  cases p.isAbsolute with
  | false =>
    refine ⟨t.workingDirectory, p.opened, rfl, ?_⟩
    obtain ⟨-, hpieces⟩ | ⟨-, hpieces⟩ := hcases
    · exact .inl (by rw [hpieces]; rfl)
    · exact .inr (by rw [hpieces]; rfl)
  | true =>
    refine ⟨[], rest, by simp [hopened], ?_⟩
    obtain ⟨-, hpieces⟩ | ⟨-, hpieces⟩ := hcases
    · exact .inl (by simp [hpieces, hopened])
    · exact .inr (by simp [hpieces, hopened])

/-- A step behind a slash is the step alone: a slash leads nowhere, and asks for a directory as
every step does. -/
theorem follow_slash (t : FileTree) (here : Location) (name : String) :
    (t.follow here "" >>= (t.follow · name)) = t.follow here name := by
  cases hhere : t.lookup? here with
  | none => simp only [follow, hhere, bind, Except.bind]
  | some e =>
    cases e with
    | file content => simp only [follow, hhere, bind, Except.bind]
    | directory =>
      have hidle : t.follow here "" = .ok here := by simp [follow, hhere, Path.isIdle]
      rw [hidle]
      rfl

/-- The walk to an entry is the walk to its directory and one more step. -/
theorem walk_child (t : FileTree) (htext : p.text ≠ "") (name : String) :
    (t.origin (p.child name)).2.foldlM t.follow (t.origin (p.child name)).1 =
      (t.origin p).2.foldlM t.follow (t.origin p).1 >>= (t.follow · name) := by
  obtain ⟨start, front, hchild, hp | hp⟩ := origin_child t htext name
  · simp [hchild, hp]
  · simp [hchild, hp, follow_slash]

/-- Whether a path is free of null characters. -/
def NoNul (p : Path) : Prop := ∀ piece ∈ p.pieces, Char.ofNat 0 ∉ piece.toList

/-- A path without null characters is taken unless it is too long. -/
theorem checkPath_of_noNul (hp : NoNul p) : checkPath p =
    if maxPathLength < p.text.utf8ByteSize then .error .nameTooLong else .ok () := by
  have hnone : p.pieces.any (·.toList.contains (Char.ofNat 0)) = false := by
    simpa [NoNul] using hp
  rw [checkPath, hnone]
  rfl

theorem checkPath_eq_ok :
    checkPath p = .ok () ↔ NoNul p ∧ p.text.utf8ByteSize ≤ maxPathLength := by
  by_cases hp : NoNul p
  · rw [checkPath_of_noNul hp]
    simp [hp]
  · have hany : p.pieces.any (·.toList.contains (Char.ofNat 0)) = true := by
      simpa [NoNul] using hp
    rw [checkPath, if_pos hany]
    simp [hp]

theorem noNul_child (htext : p.text ≠ "") (hname : LeadsDown name) :
    NoNul (p.child name) ↔ NoNul p := by
  obtain ⟨-, hpieces⟩ | ⟨-, hpieces⟩ := (opened_cases htext).2
  · simp [NoNul, hpieces, or_imp, forall_and, hname.noNul]
  · simp [NoNul, hpieces, or_imp, forall_and, hname.noNul]

/-- What stands behind the path of an entry stands behind the name of the entry. -/
theorem opened_child (p : Path) (hname : name ≠ "") :
    (p.child name).opened = p.opened ++ [name] := by
  simp [Path.opened, Path.child, hname]

theorem text_child_ne (p : Path) (hname : name ≠ "") : (p.child name).text ≠ "" := by
  rw [Path.text, Path.pieces_child]
  by_cases hopened : p.opened = []
  · simpa [hopened] using hname
  · rw [String.intercalate_append_of_ne_nil hopened (by simp)]
    simp

theorem follow_of_leadsDown (hl : t.lookup? l = some .directory) (hname : LeadsDown name) :
    t.follow l name =
      if maxNameLength < name.utf8ByteSize then .error .nameTooLong else .ok (l ++ [name]) := by
  simp [follow, hl, hname.notIdle, hname.notUp]

/-- Where a walk that ends with a name leads, if the rest of it leads to a directory. -/
private theorem locate_child_of_walk (hnul : NoNul (p.child name)) (hname : LeadsDown name)
    (hwalk : (t.origin (p.child name)).2.foldlM t.follow (t.origin (p.child name)).1 =
      t.follow l name)
    (hl : t.lookup? l = some .directory) :
    t.locate (p.child name) =
      if Fits p name then .ok (l ++ [name]) else .error .nameTooLong := by
  have hchild := text_child_ne p hname.ne_empty
  have hcheck := checkPath_of_noNul hnul
  by_cases hpath : maxPathLength < (p.child name).text.utf8ByteSize
  · rw [if_pos hpath] at hcheck
    rw [if_neg fun h : Fits p name => Nat.not_le.mpr hpath h.2, locate, hcheck]
    rfl
  · rw [if_neg hpath] at hcheck
    have hlocate : t.locate (p.child name) = t.follow l name := by
      rw [locate, hcheck]
      exact (if_neg (by simpa using hchild)).trans hwalk
    rw [hlocate, follow_of_leadsDown hl hname]
    by_cases hlong : maxNameLength < name.utf8ByteSize
    · rw [if_pos hlong, if_neg fun h : Fits p name => Nat.not_le.mpr hlong h.1]
    · have hfits : Fits p name := ⟨Nat.not_lt.mp hlong, Nat.not_lt.mp hpath⟩
      rw [if_neg hlong, if_pos hfits]

/-- A name leads from a directory to the location below it, unless the system finds it too
long. -/
theorem locate_child (hp : t.locate p = .ok l) (hl : t.lookup? l = some .directory)
    (hname : LeadsDown name) :
    t.locate (p.child name) =
      if Fits p name then .ok (l ++ [name]) else .error .nameTooLong := by
  obtain ⟨hcheck, htext, hsteps⟩ := locate_eq_ok.mp hp
  refine locate_child_of_walk ?_ hname ?_ hl
  · exact (noNul_child htext hname).mpr (checkPath_eq_ok.mp hcheck).1
  · rw [walk_child t htext, hsteps]
    rfl

/-- Where names are looked up that stand behind a path: where the path leads, or where relative
paths start if it is empty. -/
def base (t : FileTree) (p : Path) : Except Fault Location :=
  if p.text = "" then .ok t.workingDirectory else t.locate p

/-- Names behind a path are looked up where they were looked up before. -/
theorem KeepsDirectories.base (h : t.KeepsDirectories t') (hp : t.base p = .ok l) :
    t'.base p = .ok l := by
  unfold FileTree.base at hp ⊢
  split
  · next htext =>
    rw [if_pos htext] at hp
    rw [h.workingDirectory]
    exact hp
  · next htext =>
    rw [if_neg htext] at hp
    exact h.locate hp

/-- A step down leads from a directory to the location below it. -/
theorem follow_eq_ok {here next : Location} (hname : LeadsDown name)
    (h : t.follow here name = .ok next) :
    t.lookup? here = some .directory ∧ next = here ++ [name] := by
  unfold follow at h
  split at h
  · cases h
  · cases h
  · next hhere =>
    rw [hname.notIdle, if_neg Bool.false_ne_true, if_neg (by simpa using hname.notUp)] at h
    split at h
    · cases h
    · exact ⟨hhere, (Except.ok.inj h).symm⟩

theorem opened_of_empty (htext : p.text = "") : p.opened = [] := by
  obtain ⟨pieces⟩ := p
  rcases pieces with _ | ⟨first, _ | ⟨second, rest⟩⟩
  · rfl
  · obtain rfl : first = "" := by simpa [Path.text] using htext
    rfl
  · rw [Path.text, String.intercalate_cons_cons] at htext
    simp at htext

/-- Behind an empty path there is nothing but the name. -/
theorem origin_child_of_empty (t : FileTree) (htext : p.text = "") (hname : LeadsDown name) :
    NoNul (p.child name) ∧ t.origin (p.child name) = (t.workingDirectory, [name]) := by
  refine ⟨?_, ?_⟩
  · simp [NoNul, opened_of_empty htext, hname.noNul]
  · simp [origin, Path.isAbsolute, opened_of_empty htext]

/-- The same if the path may be empty. -/
theorem locate_child_of_base (hp : t.base p = .ok l) (hl : t.lookup? l = some .directory)
    (hname : LeadsDown name) :
    t.locate (p.child name) =
      if Fits p name then .ok (l ++ [name]) else .error .nameTooLong := by
  unfold base at hp
  split at hp
  · next htext =>
    obtain rfl := Except.ok.inj hp
    obtain ⟨hnul, horigin⟩ := origin_child_of_empty t htext hname
    refine locate_child_of_walk hnul hname ?_ hl
    simp [horigin]
  · exact locate_child hp hl hname

/-- Behind a path a name leads nowhere but to the location below the one that the path leads to. -/
theorem exists_base_of_locate_child (hname : LeadsDown name) (h : t.locate (p.child name) = .ok l) :
    ∃ dir, t.base p = .ok dir ∧ t.lookup? dir = some .directory ∧ l = dir ++ [name] := by
  obtain ⟨hcheck, -, hwalk⟩ := locate_eq_ok.mp h
  by_cases htext : p.text = ""
  · rw [(origin_child_of_empty t htext hname).2] at hwalk
    have hstep : t.follow t.workingDirectory name = .ok l := by simpa using hwalk
    obtain ⟨hdir, rfl⟩ := follow_eq_ok hname hstep
    exact ⟨t.workingDirectory, if_pos htext, hdir, rfl⟩
  · rw [walk_child t htext] at hwalk
    cases hsteps : (t.origin p).2.foldlM t.follow (t.origin p).1 with
    | error fault =>
      rw [hsteps] at hwalk
      cases hwalk
    | ok dir =>
      rw [hsteps] at hwalk
      obtain ⟨hdir, rfl⟩ := follow_eq_ok hname hwalk
      obtain ⟨hnul, hshort⟩ := checkPath_eq_ok.mp hcheck
      have hlonger : p.text.utf8ByteSize ≤ (p.child name).text.utf8ByteSize := by
        rw [text_child htext, String.utf8ByteSize_append, String.utf8ByteSize_append]
        omega
      have hcheck' : checkPath p = .ok () :=
        checkPath_eq_ok.mpr ⟨(noNul_child htext hname).mp hnul, Nat.le_trans hlonger hshort⟩
      exact ⟨dir, (if_neg htext).trans (locate_eq_ok.mpr ⟨hcheck', htext, hsteps⟩), hdir, rfl⟩

/-! ## The names in a directory -/

/-- What makes an entry a child of a location. -/
theorem eq_concat_of_child {l' : Location} {e : Entry} {child : String × Entry}
    (h : (if l'.dropLast = l then l'.getLast?.map (·, e) else none) = some child) :
    l' = l ++ [child.1] ∧ e = child.2 := by
  split at h
  · next hl =>
    obtain ⟨last, hlast, rfl⟩ := Option.map_eq_some_iff.mp h
    obtain ⟨front, rfl⟩ := List.getLast?_eq_some_iff.mp hlast
    rw [List.dropLast_concat] at hl
    exact ⟨by rw [hl], rfl⟩
  · cases h

/-- The children of a location are what stands one name below it. -/
theorem mem_childrenOf {e : Entry} :
    (name, e) ∈ t.childrenOf l ↔ t.lookup? (l ++ [name]) = some e := by
  unfold childrenOf
  rw [List.mem_filterMap, lookup?, if_neg (by simp),
    ← Std.ExtTreeMap.mem_toList_iff_getElem?_eq_some]
  constructor
  · rintro ⟨⟨l', e'⟩, hmem, hchild⟩
    obtain ⟨rfl, rfl⟩ := eq_concat_of_child hchild
    exact hmem
  · exact fun hmem => ⟨(l ++ [name], e), hmem, by simp⟩

/-- No name occurs twice in a directory. -/
theorem nodup_childrenOf (t : FileTree) (l : Location) :
    ((t.childrenOf l).map Prod.fst).Nodup := by
  unfold childrenOf
  rw [List.Nodup, List.pairwise_map, List.pairwise_filterMap]
  refine Std.ExtTreeMap.distinct_keys_toList.imp ?_
  rintro ⟨l₁, e₁⟩ ⟨l₂, e₂⟩ hdistinct child₁ hchild₁ child₂ hchild₂ hsame
  refine hdistinct ?_
  rw [(eq_concat_of_child hchild₁).1, (eq_concat_of_child hchild₂).1, hsame]
  exact Std.ReflCmp.compare_self

theorem names_eq_ok {names : List String} : t.names p = .ok names ↔
    ∃ l, t.locate p = .ok l ∧ t.lookup? l = some .directory ∧
      names = (t.childrenOf l).map Prod.fst := by
  unfold FileTree.names
  cases t.locate p with
  | error e => simp [bind, Except.bind]
  | ok l =>
    cases hl : t.lookup? l with
    | none => simp [hl, bind, Except.bind]
    | some e => cases e <;> simp [hl, bind, Except.bind, eq_comm]

/-! ## Files at known locations -/

theorem has_of_locate (hl : t.locate p = .ok l) : t.has p = (t.lookup? l).isSome := by
  rw [has, hl]

/-- What is removed is a file, and the path leads there. -/
theorem remove_eq_ok : t.remove p = .ok t' ↔
    ∃ l content, t.locate p = .ok l ∧ t.lookup? l = some (.file content) ∧ t' = t.drop l := by
  unfold remove
  cases t.locate p with
  | error e => simp [bind, Except.bind]
  | ok l =>
    cases hl : t.lookup? l with
    | none => simp [hl, bind, Except.bind]
    | some e => cases e <;> simp [hl, bind, Except.bind, eq_comm]

theorem remove_of_locate {content : ByteArray} (hl : t.locate p = .ok l)
    (hfile : t.lookup? l = some (.file content)) : t.remove p = .ok (t.drop l) :=
  remove_eq_ok.mpr ⟨l, content, hl, hfile, rfl⟩

/-- Nothing can be written where no path leads. -/
theorem writeText_of_locate_error {fault : Fault} (hslash : p.endsInSlash = false)
    (hl : t.locate p = .error fault) (text : String) : t.writeText p text = .error fault := by
  simp only [writeText, write, locateFile, hslash, hl, bind, Except.bind, Bool.false_eq_true,
    if_false]

theorem endsInSlash_child (hname : name ≠ "") : (p.child name).endsInSlash = false := by
  simp [Path.endsInSlash, hname]

/-- Taking a file away leaves the directories where they are. -/
theorem keepsDirectories_drop {content : ByteArray} (hl : t.lookup? l = some (.file content)) :
    t.KeepsDirectories (t.drop l) := by
  have hroot : l ≠ [] := by
    rintro rfl
    cases hl
  refine ⟨rfl, fun l' hl' => ?_⟩
  rw [lookup?_drop t hroot, if_neg ?_]
  · exact hl'
  · rintro rfl
    rw [hl] at hl'
    cases hl'

end TunnelFleet.FileTree
