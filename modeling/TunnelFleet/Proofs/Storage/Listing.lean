import TunnelFleet.Proofs.Storage.WorkspaceMap

/-!
# What a listing passes over

A directory of workspaces may hold anything. A listing only looks at the entries with the
extension of workspace files, and passes over those whose texts spell no workspace. It gives
up if there is such an entry that cannot be opened as a file at all. So it tells all the
workspaces that there are, or fails and names an entry that is to blame.
-/

namespace TunnelFleet

/-- The text of a file. -/
def Entry.text? : Entry → Option String
  | .file content => String.fromUTF8? content
  | .directory => none

/-- The workspace that a file spells. -/
def Entry.workspace? (e : Entry) : Option Workspace := e.text?.bind Workspace.parse?

theorem Entry.text?_toUTF8 (text : String) : (Entry.file text.toUTF8).text? = some text :=
  dif_pos text.isValidUTF8

theorem Entry.workspace?_toUTF8 (text : String) :
    (Entry.file text.toUTF8).workspace? = Workspace.parse? text := by
  rw [workspace?, text?_toUTF8, Option.bind_some]

namespace FileTree

variable {t : FileTree} {p : Path} {l : Location} {name : String} {e : Entry}

/-- Whether an entry of a directory can be opened as a file: it is one, and the system takes its
path. -/
def Opens (p : Path) (name : String) (e : Entry) : Prop :=
  e ≠ .directory ∧ Char.ofNat 0 ∉ name.toList ∧ Fits p name

instance (p : Path) (name : String) (e : Entry) : Decidable (Opens p name e) :=
  inferInstanceAs (Decidable (_ ∧ _ ∧ _))

/-- No path with a null character is taken. -/
theorem locate_child_of_nul (hnul : Char.ofNat 0 ∈ name.toList) :
    t.locate (p.child name) = .error .nulInPath := by
  have hany : (p.child name).pieces.any (·.toList.contains (Char.ofNat 0)) = true := by
    rw [Path.pieces_child, List.any_append]
    simp [hnul]
  rw [locate, checkPath, hany]
  rfl

/-- An entry of a directory yields its text, or a fault if it cannot be opened as a file or
holds no text. -/
theorem loadText_child (hp : t.locate p = .ok l) (hl : t.lookup? l = some .directory)
    (hidle : Path.isIdle name = false) (hup : name ≠ "..")
    (he : t.lookup? (l ++ [name]) = some e) :
    (∃ text, Opens p name e ∧ e.text? = some text ∧ t.loadText (p.child name) = .ok text) ∨
      ((Opens p name e → e.text? = none) ∧
        ∃ reason, t.loadText (p.child name) = .error (.access (p.child name) reason)) := by
  by_cases hnul : Char.ofNat 0 ∈ name.toList
  · refine .inr ⟨fun h => absurd hnul h.2.1, Fault.nulInPath.message, ?_⟩
    rw [loadText, readText, read, locate_child_of_nul hnul]
    rfl
  · have hlocate := locate_child hp hl ⟨hidle, hup, hnul⟩
    by_cases hfits : Fits p name
    · rw [if_pos hfits] at hlocate
      cases e with
      | directory =>
        refine .inr ⟨fun h => absurd rfl h.1, Fault.isADirectory.message, ?_⟩
        simp only [loadText, readText, read, hlocate, he, bind, Except.bind]
        rfl
      | file content =>
        cases htext : String.fromUTF8? content with
        | some text =>
          exact .inl ⟨text, ⟨Entry.noConfusion, hnul, hfits⟩, htext,
            loadText_eq_ok.mpr ⟨_, content, hlocate, he, htext⟩⟩
        | none =>
          refine .inr ⟨fun _ => htext, Fault.notText.message, ?_⟩
          simp only [loadText, readText, read, hlocate, he, htext, bind, Except.bind]
          rfl
    · rw [if_neg hfits] at hlocate
      refine .inr ⟨fun h => absurd h.2.2 hfits, Fault.nameTooLong.message, ?_⟩
      rw [loadText, readText, read, hlocate]
      rfl

end FileTree

namespace WorkspaceFiles

variable {d : WorkspaceFiles} {t : FileTree} {dir : Location} {name : String} {e : Entry}

/-- Whether a name has the extension of workspace files. -/
def isListed (x : String × Entry) : Bool := Path.extension? x.1 == some extension

/-- The entries that a listing looks at. -/
def listed (entries : List (String × Entry)) : List (String × Entry) := entries.filter isListed

/-- The workspaces that the listed entries spell. -/
def spelled (entries : List (String × Entry)) : List Workspace :=
  (listed entries).filterMap fun x => x.2.workspace?

/-- The warnings about the listed entries that spell no workspace. -/
def warnings (d : WorkspaceFiles) (entries : List (String × Entry)) : List LogLine :=
  ((listed entries).filter fun x => x.2.workspace?.isNone).map fun x =>
    skipped (.malformed (d.directory.child x.1))

theorem not_idle_of_extension (h : Path.extension? name = some extension) :
    Path.isIdle name = false ∧ name ≠ ".." := by
  refine ⟨?_, ?_⟩
  · rw [Bool.eq_false_iff, Path.isIdle, ne_eq, Bool.or_eq_true, beq_iff_eq, beq_iff_eq]
    rintro (rfl | rfl)
    · revert h
      decide
    · revert h
      decide
  · rintro rfl
    revert h
    decide

/-- A listed entry is read, found to spell no workspace, or cannot be read. -/
theorem read_child (hp : t.locate d.directory = .ok dir) (hl : t.lookup? dir = some .directory)
    (hlisted : Path.extension? name = some extension)
    (he : t.lookup? (dir ++ [name]) = some e) :
    (FileTree.Opens d.directory name e ∧ e.text?.isSome = true ∧
      read (d.directory.child name) t =
        match e.workspace? with
        | some w => .ok w
        | none => .error (.malformed (d.directory.child name))) ∨
    ((FileTree.Opens d.directory name e → e.text? = none) ∧
      ∃ reason, read (d.directory.child name) t =
        .error (.access (d.directory.child name) reason)) := by
  obtain ⟨hidle, hup⟩ := not_idle_of_extension hlisted
  unfold read
  obtain ⟨text, hopens, htext, hload⟩ | ⟨hfails, reason, hload⟩ :=
    FileTree.loadText_child hp hl hidle hup he
  · refine .inl ⟨hopens, by rw [htext]; rfl, ?_⟩
    rw [hload, Entry.workspace?, htext]
    cases hw : Workspace.parse? text <;> simp [hw]
  · refine .inr ⟨hfails, reason, ?_⟩
    rw [hload]

/-- Reading the entries of a directory one by one yields all the workspaces that they spell and
a warning for each other listed one, or ends with a listed entry that cannot be read. -/
theorem readAll_entries (hp : t.locate d.directory = .ok dir)
    (hl : t.lookup? dir = some .directory) {entries : List (String × Entry)}
    (he : ∀ x ∈ entries, t.lookup? (dir ++ [x.1]) = some x.2) :
    (d.readAll t (entries.map Prod.fst) = (.ok (spelled entries), d.warnings entries) ∧
      ∀ x ∈ listed entries, FileTree.Opens d.directory x.1 x.2 ∧ x.2.text?.isSome = true) ∨
    ∃ x ∈ listed entries, (FileTree.Opens d.directory x.1 x.2 → x.2.text? = none) ∧
      ∃ reason, (d.readAll t (entries.map Prod.fst)).1 =
        .error (.access (d.directory.child x.1) reason) := by
  induction entries with
  | nil => exact .inl ⟨rfl, List.forall_mem_nil _⟩
  | cons x entries ih =>
    have hrest := ih fun y hy => he y (List.mem_cons_of_mem _ hy)
    have hx := he x List.mem_cons_self
    obtain ⟨name, e⟩ := x
    rw [List.map_cons, readAll]
    by_cases hname : Path.extension? name = some extension
    · have hlisted : listed ((name, e) :: entries) = (name, e) :: listed entries :=
        List.filter_cons_of_pos (by simp [isListed, hname])
      rw [if_pos (by simpa using hname), spelled, warnings, hlisted]
      obtain ⟨hopens, htext, hread⟩ | ⟨hfails, reason, hread⟩ := read_child hp hl hname hx
      · rw [hread]
        obtain ⟨hall, hlistedall⟩ | ⟨y, hy, hfails, reason, herror⟩ := hrest
        · refine .inl ⟨?_, List.forall_mem_cons.mpr ⟨⟨hopens, htext⟩, hlistedall⟩⟩
          rw [hall]
          cases hw : e.workspace? with
          | some w => simp [hw, spelled, warnings, Except.map]
          | none => simp [hw, spelled, warnings]
        · refine .inr ⟨y, List.mem_cons_of_mem _ hy, hfails, reason, ?_⟩
          cases hw : e.workspace? with
          | some w => simp [herror, Except.map]
          | none => simp [herror]
      · refine .inr ⟨(name, e), List.mem_cons_self, hfails, reason, ?_⟩
        rw [hread]
    · have hlisted : listed ((name, e) :: entries) = listed entries :=
        List.filter_cons_of_neg (by simp [isListed, hname])
      rw [if_neg (by simpa using hname), spelled, warnings, hlisted]
      exact hrest

/-- What a listing of a directory that can be read comes to, whatever the directory holds. A
listing that succeeds tells exactly the workspaces that are spelled by files with the right
extension, in the order of the local ids. It succeeds if each entry with this extension is a
file that can be opened and holds a text, and it warns about those that spell no workspace. It
fails if one of them cannot be opened as a file, as a directory cannot, and names an entry with
this extension. -/
theorem list_exact (d : WorkspaceFiles) (t : FileTree) {names : List String}
    (hnames : t.names d.directory = .ok names) :
    ∃ dir, t.locate d.directory = .ok dir ∧ names = (t.childrenOf dir).map Prod.fst ∧
      (∀ ws, (d.list t).1 = .ok ws → ws.Perm (spelled (t.childrenOf dir)) ∧
        ws.Pairwise fun a b => (compare a.localId b.localId).isLE = true) ∧
      ((∀ x ∈ listed (t.childrenOf dir),
          FileTree.Opens d.directory x.1 x.2 ∧ x.2.text?.isSome = true) →
        ∃ ws, d.list t = (.ok ws, d.warnings (t.childrenOf dir))) ∧
      ((∃ x ∈ listed (t.childrenOf dir), ¬ FileTree.Opens d.directory x.1 x.2) →
        ∃ x ∈ listed (t.childrenOf dir), ∃ reason,
          (d.list t).1 = .error (.access (d.directory.child x.1) reason)) := by
  obtain ⟨dir, hp, hl, rfl⟩ := FileTree.names_eq_ok.mp hnames
  have hlist : d.list t =
      ((d.readAll t ((t.childrenOf dir).map Prod.fst)).1.map sortByLocalId,
        (d.readAll t ((t.childrenOf dir).map Prod.fst)).2) := by
    rw [list, hnames]
  rw [hlist]
  refine ⟨dir, hp, rfl, ?_⟩
  obtain ⟨hread, hall⟩ | ⟨x, hx, hfails, reason, hread⟩ :=
    readAll_entries hp hl fun x hx => FileTree.mem_childrenOf.mp hx
  · rw [hread]
    refine ⟨fun ws hws => ?_, fun _ => ⟨_, rfl⟩, ?_⟩
    · obtain rfl := Except.ok.inj hws
      exact ⟨List.mergeSort_perm _ _, pairwise_sortByLocalId _⟩
    · rintro ⟨x, hx, hnot⟩
      exact absurd (hall x hx).1 hnot
  · rw [hread]
    refine ⟨fun ws hws => ?_, fun hopens => ?_, fun _ => ⟨x, hx, reason, rfl⟩⟩
    · cases hws
    · obtain ⟨hopen, htext⟩ := hopens x hx
      rw [hfails hopen] at htext
      cases htext

/-- A workspace beside a file with a broken text, bytes that are no text under another name, and a
directory. -/
theorem list_exact_mixed :
    let d : WorkspaceFiles := ⟨⟨["", "fleet"]⟩⟩
    let web : Workspace := { id := "1001", name := "web", address := "10.0.0.1" }
    let t : FileTree :=
      { entries := .ofList
          [(["fleet"], .directory), (["fleet", "bad-0000.json"], .file "\x7b".toUTF8),
            (["fleet", "notes.txt"], .file ⟨#[255]⟩), (["fleet", "old"], .directory),
            (["fleet", "web-1001.json"], .file web.toJson.pretty.toUTF8)] compare }
    let names := ["bad-0000.json", "notes.txt", "old", "web-1001.json"]
    t.names d.directory = .ok names ∧
      d.list t = (.ok [web], [skipped (.malformed (d.directory.child "bad-0000.json"))]) := by
  intro d web t names
  have hnames : t.names d.directory = .ok names := rfl
  have hlocate : t.locate d.directory = .ok ["fleet"] := rfl
  have hextensions : names.map Path.extension? =
      [some extension, some "txt", none, some extension] := by
    decide +kernel
  simp only [names, List.map_cons, List.map_nil, List.cons.injEq, and_true] at hextensions
  obtain ⟨hbadname, hnotes, hold, hwebname⟩ := hextensions
  have hchildren : t.childrenOf ["fleet"] =
      [("bad-0000.json", .file "\x7b".toUTF8), ("notes.txt", .file ⟨#[255]⟩),
        ("old", .directory), ("web-1001.json", .file web.toJson.pretty.toUTF8)] := rfl
  have hlisted : listed (t.childrenOf ["fleet"]) =
      [("bad-0000.json", .file "\x7b".toUTF8),
        ("web-1001.json", .file web.toJson.pretty.toUTF8)] := by
    simp [listed, isListed, hchildren, hbadname, hnotes, hold, hwebname, extension]
  have hbad : Workspace.parse? "\x7b" = none := by decide +kernel
  have hopens : ∀ x ∈ listed (t.childrenOf ["fleet"]),
      FileTree.Opens d.directory x.1 x.2 ∧ x.2.text?.isSome = true := by
    rw [hlisted]
    simp only [List.forall_mem_cons, Entry.text?_toUTF8, Option.isSome_some, and_true]
    refine ⟨⟨Entry.noConfusion, ?_⟩, ⟨Entry.noConfusion, ?_⟩, List.forall_mem_nil _⟩
    · decide +kernel
    · decide +kernel
  have hspelled : spelled (t.childrenOf ["fleet"]) = [web] := by
    simp only [spelled, hlisted, List.filterMap_cons, List.filterMap_nil,
      Entry.workspace?_toUTF8, hbad, Workspace.parse?_toJson]
  have hwarnings : d.warnings (t.childrenOf ["fleet"]) =
      [skipped (.malformed (d.directory.child "bad-0000.json"))] := by
    simp only [warnings, hlisted, List.filter_cons, Entry.workspace?_toUTF8, hbad,
      Workspace.parse?_toJson]
    rfl
  obtain ⟨dir, hdir, -, hexact, hsucceeds, -⟩ := list_exact d t hnames
  obtain rfl : ["fleet"] = dir := Except.ok.inj (hlocate.symm.trans hdir)
  obtain ⟨ws, hlist⟩ := hsucceeds hopens
  obtain ⟨hperm, -⟩ := hexact ws (congrArg Prod.fst hlist)
  rw [hspelled, List.perm_singleton] at hperm
  rw [hwarnings, hperm] at hlist
  exact ⟨hnames, hlist⟩

/-- It is not true that a listing succeeds whatever the directory holds. -/
theorem list_not_total :
    ¬ ∀ (d : WorkspaceFiles) (t : FileTree) (names : List String) (dir : Location),
      t.names d.directory = .ok names → t.locate d.directory = .ok dir →
        ∃ ws, (d.list t).1 = .ok ws ∧ ws.Perm (spelled (t.childrenOf dir)) ∧
          ws.Pairwise fun a b => (compare a.localId b.localId).isLE = true := by
  intro htotal
  let d : WorkspaceFiles := ⟨⟨["", "fleet"]⟩⟩
  let web : Workspace := { id := "1001", name := "web", address := "10.0.0.1" }
  let t : FileTree :=
    { entries := .ofList
        [(["fleet"], .directory), (["fleet", "old.json"], .directory),
          (["fleet", "web-1001.json"], .file web.toJson.pretty.toUTF8)] compare }
  obtain ⟨ws, hlist, -⟩ := htotal d t ["old.json", "web-1001.json"] ["fleet"] rfl rfl
  have hfails : (d.list t).1.isOk = false := by decide +kernel
  rw [hlist] at hfails
  cases hfails

end WorkspaceFiles

end TunnelFleet
