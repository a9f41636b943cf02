import TunnelFleet.Cli.Perform
import TunnelFleet.Proofs.Files.Directories
import TunnelFleet.Proofs.Storage.PortFile
import TunnelFleet.Proofs.Storage.Settings

/-!
# What a command changes

The commands apart from `up` keep the state of the user. Each of them belongs to a family, which
has one place in the state directory. A command that fails, or only shows what is there, leaves
every file as it was. One that succeeds has done what it was asked for to the file that it is about,
and to no other file. No command takes a directory away.
-/

namespace TunnelFleet

namespace FileTree

variable {t t' t'' : FileTree} {p : Path} {paths paths' : List Path} {l : Location}

/-- Whether a tree has the same files as another one, but for those that these paths lead to, and
all directories are still there. -/
structure ChangesOnly (t : FileTree) (paths : List Path) (t' : FileTree) : Prop where
  keeps : t.KeepsDirectories t'
  files : ∀ l, (∀ p ∈ paths, t'.locate p ≠ .ok l) → ∀ content,
    t'.lookup? l = some (.file content) ↔ t.lookup? l = some (.file content)

namespace ChangesOnly

theorem of_sameFiles (hgrows : t.Grows t') (hsame : t.SameFiles t') : t.ChangesOnly paths t' :=
  ⟨hgrows.keepsDirectories, fun l _ => hsame l⟩

theorem refl (t : FileTree) : t.ChangesOnly paths t := of_sameFiles (.refl t) (.refl t)

/-- If no path is named, no file is changed. -/
theorem sameFiles (h : t.ChangesOnly [] t') : t.SameFiles t' := fun l => h.files l nofun

/-- Paths that are named lead to where they led before, so they are the same files. -/
theorem append (h : t.ChangesOnly paths t') (h' : t'.ChangesOnly paths' t'') :
    t.ChangesOnly (paths ++ paths') t'' where
  keeps := h.keeps.trans h'.keeps
  files l hl content := by
    have hlater : ∀ p ∈ paths', t''.locate p ≠ .ok l := fun p hp =>
      hl p (List.mem_append_right _ hp)
    have hearlier : ∀ p ∈ paths, t'.locate p ≠ .ok l := fun p hp hlocate =>
      hl p (List.mem_append_left _ hp) (h'.keeps.locate hlocate)
    exact (h'.files l hlater content).trans (h.files l hearlier content)

theorem after_sameFiles (hgrows : t.Grows t') (hsame : t.SameFiles t')
    (h : t'.ChangesOnly paths t'') : t.ChangesOnly paths t'' :=
  (append (of_sameFiles hgrows hsame) h : t.ChangesOnly ([] ++ paths) t'')

theorem put (hp : t.locate p = .ok l) (hl : t.lookup? l ≠ some .directory) (content : ByteArray) :
    t.ChangesOnly [p] (t.put l (.file content)) where
  keeps := keepsDirectories_put hl content
  files l' hl' content' := by
    have hne : l' ≠ l := by
      rintro rfl
      exact hl' p (by simp) ((keepsDirectories_put hl content).locate hp)
    rw [lookup?_put t _ (ne_root hl), if_neg hne]

theorem drop {content : ByteArray} (hp : t.locate p = .ok l)
    (hl : t.lookup? l = some (.file content)) : t.ChangesOnly [p] (t.drop l) where
  keeps := keepsDirectories_drop hl
  files l' hl' content' := by
    have hne : l' ≠ l := by
      rintro rfl
      exact hl' p (by simp) ((keepsDirectories_drop hl).locate hp)
    have hfile : t.lookup? l ≠ some .directory := by simp [hl]
    rw [lookup?_drop t (ne_root hfile), if_neg hne]

theorem mono (h : t.ChangesOnly paths t') (hpaths : ∀ p ∈ paths, p ∈ paths') :
    t.ChangesOnly paths' t' :=
  ⟨h.keeps, fun l hl => h.files l fun p hp => hl p (hpaths p hp)⟩

end ChangesOnly

/-- Whether a call of a store that has this result leaves every file as it was if it fails, and all
files but one otherwise. -/
def Framed {α : Type} (t : FileTree) (p : Path) (result : Except StoreError α × FileTree) : Prop :=
  t.ChangesOnly (if result.1.isOk then [p] else []) result.2

theorem framed_saveText (t : FileTree) (p : Path) (text : String) :
    t.Framed p (t.saveText p text) := by
  have hgrows := Grows.makeParent t p
  have hsame := SameFiles.makeParent t p
  obtain ⟨t', t'', hparent, hwrite, hsave⟩ | ⟨e, hsave⟩ := t.saveText_eq_or p text
  · rw [hparent] at hgrows hsame
    obtain ⟨-, l, hlocate, hl, rfl⟩ := write_eq_ok.mp hwrite
    rw [hsave]
    exact .after_sameFiles hgrows hsame (.put hlocate hl _)
  · rw [hsave]
    exact .of_sameFiles hgrows hsame

end FileTree

/-! ## Operations of the stores -/

theorem PortFile.framed_set (f : PortFile) (l : LocalId) (port : UInt16) (t : FileTree) :
    t.Framed f.path (f.set l port t) := by
  obtain ⟨e, hset⟩ | ⟨pins, -, hset⟩ := f.set_cases l port t
  · rw [hset]
    exact .refl t
  · rw [hset]
    exact t.framed_saveText f.path _

theorem PortFile.framed_remove (f : PortFile) (l : LocalId) (t : FileTree) :
    t.Framed f.path (f.remove l t) := by
  unfold remove
  cases f.list t with
  | error e => exact .refl t
  | ok pins =>
    by_cases hl : l ∈ pins
    · have hwritten : t.Framed f.path (f.write (pins.erase l) t) := t.framed_saveText f.path _
      simp only [hl, if_true]
      split
      · next hwrite =>
        rw [hwrite] at hwritten
        exact hwritten
      · next hwrite =>
        rw [hwrite] at hwritten
        exact hwritten
    · simp only [hl, if_false]
      exact .refl t

theorem SettingsFile.framed_modify (f : SettingsFile) (change : Settings → Settings)
    (t : FileTree) : t.Framed f.path (f.modify change t) := by
  unfold modify
  cases f.load t with
  | error e => exact .refl t
  | ok c => exact t.framed_saveText f.path _

theorem WorkspaceFiles.framed_save (d : WorkspaceFiles) (w : Workspace) (t : FileTree) :
    t.Framed (d.file w.localId) (d.save w t) := by
  unfold save
  cases w.localId.check with
  | error e => exact .refl t
  | ok u =>
    dsimp only
    cases hwrite : t.writeText (d.file w.localId) w.toJson.pretty with
    | error fault => exact .refl t
    | ok t' =>
      obtain ⟨-, l, hlocate, hl, rfl⟩ := FileTree.write_eq_ok.mp hwrite
      exact .put hlocate hl _

theorem WorkspaceFiles.framed_remove (d : WorkspaceFiles) (l : LocalId) (t : FileTree) :
    t.Framed (d.file l) (d.remove l t) := by
  unfold remove
  cases l.check with
  | error e => exact .refl t
  | ok u =>
    dsimp only
    split
    · cases hremove : t.remove (d.file l) with
      | error fault => exact .refl t
      | ok t' =>
        obtain ⟨place, content, hlocate, hfile, rfl⟩ := FileTree.remove_eq_ok.mp hremove
        exact .drop hlocate hfile
    · exact .refl t

/-! ## What the operations come to -/

theorem exists_of_isOk {ε α : Type} {x : Except ε α} (h : x.isOk = true) : ∃ a, x = .ok a := by
  cases x with
  | error e => cases h
  | ok a => exact ⟨a, rfl⟩

/-- The pin that was removed is not there, whether there was one or not. -/
theorem PortFile.get_remove {f : PortFile} {l : LocalId} {t : FileTree} {found : Bool}
    (h : (f.remove l t).1 = .ok found) : f.get l (f.remove l t).2 = .ok none := by
  unfold remove at h ⊢
  cases hlist : f.list t with
  | error e =>
    rw [hlist] at h
    cases h
  | ok pins =>
    rw [hlist] at h
    by_cases hl : l ∈ pins
    · simp only [hl, if_true] at h ⊢
      obtain ⟨hok, hwritten⟩ | ⟨e, hfailed, -⟩ := f.write_cases (pins.erase l) t
      · rcases hwrite : f.write (pins.erase l) t with ⟨answer, t'⟩
        rw [hwrite] at hok hwritten
        cases hok
        simp [get, hwritten, Except.map]
      · rcases hwrite : f.write (pins.erase l) t with ⟨answer, t'⟩
        rw [hwrite] at hfailed h
        cases hfailed
        cases h
    · simp [hl, get, hlist, Except.map]

/-- Settings that were changed are read back with the change. -/
theorem SettingsFile.load_modify {f : SettingsFile} {change : Settings → Settings} {t : FileTree}
    (h : (f.modify change t).1 = .ok ()) :
    ∃ c, f.load t = .ok c ∧ f.load (f.modify change t).2 = .ok (change c) := by
  unfold modify at h ⊢
  cases hload : f.load t with
  | error e =>
    rw [hload] at h
    cases h
  | ok c =>
    rw [hload] at h
    exact ⟨c, rfl, load_eq_ok.mpr (holds_save h)⟩

theorem WorkspaceFiles.loadText_save {d : WorkspaceFiles} {w : Workspace} {t : FileTree}
    {l : LocalId} (h : (d.save w t).1 = .ok l) :
    (d.save w t).2.loadText (d.file w.localId) = .ok w.toJson.pretty := by
  unfold save at h ⊢
  cases hcheck : w.localId.check with
  | error e =>
    rw [hcheck] at h
    cases h
  | ok u =>
    rw [hcheck] at h
    dsimp only at h ⊢
    cases hwrite : t.writeText (d.file w.localId) w.toJson.pretty with
    | error fault =>
      rw [hwrite] at h
      cases h
    | ok t' => exact (FileTree.loadText_writeText hwrite).2

theorem WorkspaceFiles.has_remove {d : WorkspaceFiles} {l : LocalId} {t : FileTree}
    (h : (d.remove l t).1 = .ok ()) : (d.remove l t).2.has (d.file l) = false := by
  unfold remove at h ⊢
  cases hcheck : l.check with
  | error e =>
    rw [hcheck] at h
    cases h
  | ok u =>
    rw [hcheck] at h
    dsimp only at h ⊢
    cases hhas : t.has (d.file l) with
    | false =>
      rw [hhas] at h
      cases h
    | true =>
      rw [hhas] at h
      simp only [if_true] at h ⊢
      cases hremove : t.remove (d.file l) with
      | error fault =>
        rw [hremove] at h
        cases h
      | ok t' =>
        obtain ⟨place, content, hlocate, hfile, rfl⟩ := FileTree.remove_eq_ok.mp hremove
        have hplace : t.lookup? place ≠ some .directory := by simp [hfile]
        rw [FileTree.has_of_locate ((FileTree.keepsDirectories_drop hfile).locate hlocate),
          FileTree.lookup?_drop t (FileTree.ne_root hplace), if_pos rfl]
        rfl

/-! ## Families of commands -/

namespace Cli

/-- The families of commands that keep the state of the user. -/
inductive Family
  | workspaces
  | ports
  | settings
  deriving DecidableEq

/-- The family of a command. To raise the tunnels belongs to none. -/
def Command.family? : Command → Option Family
  | .up _ => none
  | .addWorkspace _ | .listWorkspaces _ | .removeWorkspace _ => some .workspaces
  | .setPort _ _ | .clearPort _ | .listPorts => some .ports
  | .showSettings | .setUser _ | .setIdentity _ => some .settings

/-- The paths of the files that a command is to change in the state directory. Commands that show
what is there are to change none. -/
def Command.targets (directory : Path) : Command → List Path
  | .addWorkspace w => [(WorkspaceFiles.mk (directory.child "workspaces")).file w.localId]
  | .removeWorkspace l => [(WorkspaceFiles.mk (directory.child "workspaces")).file l]
  | .setPort _ _ | .clearPort _ => [directory.child "ports.json"]
  | .setUser _ | .setIdentity _ => [directory.child "config.json"]
  | .listWorkspaces _ | .listPorts | .showSettings | .up _ => []

/-- Whether a tree has become what a command asks for. Commands that show what is there ask for
nothing. -/
def Command.Done (directory : Path) (t t' : FileTree) : Command → Prop
  | .addWorkspace w =>
    t'.loadText ((WorkspaceFiles.mk (directory.child "workspaces")).file w.localId) =
      .ok w.toJson.pretty
  | .removeWorkspace l =>
    t'.has ((WorkspaceFiles.mk (directory.child "workspaces")).file l) = false
  | .setPort l port => (PortFile.mk (directory.child "ports.json")).get l t' = .ok (some port)
  | .clearPort l => (PortFile.mk (directory.child "ports.json")).get l t' = .ok none
  | .setUser user => ∃ c, (SettingsFile.mk (directory.child "config.json")).load t = .ok c ∧
      (SettingsFile.mk (directory.child "config.json")).load t' = .ok { c with sshUser := user }
  | .setIdentity key => ∃ c, (SettingsFile.mk (directory.child "config.json")).load t = .ok c ∧
      (SettingsFile.mk (directory.child "config.json")).load t' = .ok { c with privateKey := key }
  | .listWorkspaces _ | .listPorts | .showSettings | .up _ => True

/-- The paths of the files that a command may have changed, by its outcome. -/
def Place.changed (place : Place) (c : Command) (o : Outcome) : List Path :=
  match place.stateDirectory with
  | .ok directory => if o.code = 0 then c.targets directory else []
  | .error _ => []

/-- Whether a command that has this result leaves every file as it was if it fails, and all files
but these otherwise. -/
def Framed (t : FileTree) (paths : List Path) (result : Outcome × FileTree) : Prop :=
  t.ChangesOnly (if result.1.code = 0 then paths else []) result.2

theorem framed_shown (t : FileTree) (paths : List Path) (o : Outcome) : Framed t paths (o, t) :=
  .refl t

/-- A command on the workspaces is framed if it is once their directory is there. -/
theorem framed_onWorkspaces {directory : Path} {paths : List Path}
    {act : WorkspaceFiles → FileTree → Outcome × FileTree}
    (hact : ∀ t, Framed t paths (act ⟨directory.child "workspaces"⟩ t)) (t : FileTree) :
    Framed t paths (onWorkspaces directory t act) := by
  have hgrows := FileTree.Grows.createDirectory t (directory.child "workspaces")
  have hsame := FileTree.SameFiles.createDirectory t (directory.child "workspaces")
  unfold onWorkspaces WorkspaceFiles.create
  cases hmade : t.createDirectory (directory.child "workspaces") with
  | mk made t' =>
    rw [hmade] at hgrows hsame
    cases made with
    | error fault => exact .of_sameFiles hgrows hsame
    | ok u => exact .after_sameFiles hgrows hsame (hact t')

variable {α : Type}

/-- Whether a command tells how a call of a store went: it leaves the tree that the call leaves, and
succeeds if the call does. -/
structure Tells (told : Outcome × FileTree) (result : Except StoreError α × FileTree) : Prop where
  tree : told.2 = result.2
  code : told.1.code = 0 ↔ result.1.isOk = true

theorem tells_failed (f : Failure) (e : StoreError) (t : FileTree) :
    Tells (.failed f, t) ((.error e : Except StoreError α), t) := by
  constructor
  · rfl
  · simp [Outcome.failed, Outcome.code, Except.isOk, Except.toBool]

theorem tells_lines (ls : List String) (a : α) (t : FileTree) :
    Tells (.lines ls, t) (.ok a, t) := by
  constructor
  · rfl
  · simp [Outcome.lines, Outcome.code, Except.isOk, Except.toBool]

/-- A command that tells how a call went is framed as the call is. -/
theorem Tells.framed {t : FileTree} {p : Path} {told : Outcome × FileTree}
    {result : Except StoreError α × FileTree} (h : Tells told result)
    (hresult : t.Framed p result) : Framed t [p] told := by
  unfold FileTree.Framed at hresult
  rw [Framed, h.tree]
  by_cases hok : result.1.isOk = true
  · rw [if_pos hok] at hresult
    rw [if_pos (h.code.mpr hok)]
    exact hresult
  · rw [if_neg hok] at hresult
    rw [if_neg (mt h.code.mp hok)]
    exact hresult

theorem tells_addWorkspace (w : Workspace) (files : WorkspaceFiles) (t : FileTree) :
    Tells (addWorkspace w files t) (files.save w t) := by
  unfold addWorkspace
  cases files.save w t with
  | mk answer t' =>
    cases answer with
    | error e => exact tells_failed _ e t'
    | ok a => exact tells_lines _ a t'

theorem tells_removeWorkspace (l : LocalId) (files : WorkspaceFiles) (t : FileTree) :
    Tells (removeWorkspace l files t) (files.remove l t) := by
  unfold removeWorkspace
  cases files.remove l t with
  | mk answer t' =>
    cases answer with
    | error e => exact tells_failed _ e t'
    | ok a => exact tells_lines _ a t'

theorem tells_setPort (l : LocalId) (port : UInt16) (file : PortFile) (t : FileTree) :
    Tells (setPort l port file t) (file.set l port t) := by
  unfold setPort
  cases file.set l port t with
  | mk answer t' =>
    cases answer with
    | error e => exact tells_failed _ e t'
    | ok a => exact tells_lines _ a t'

theorem tells_clearPort (l : LocalId) (file : PortFile) (t : FileTree) :
    Tells (clearPort l file t) (file.remove l t) := by
  unfold clearPort
  cases file.remove l t with
  | mk answer t' =>
    cases answer with
    | error e => exact tells_failed _ e t'
    | ok found =>
      cases found with
      | true => exact tells_lines _ true t'
      | false => exact tells_lines _ false t'

theorem tells_setUser (user : String) (file : SettingsFile) (t : FileTree) :
    Tells (setUser user file t) (file.setUser user t) := by
  unfold setUser
  cases file.setUser user t with
  | mk answer t' =>
    cases answer with
    | error e => exact tells_failed _ e t'
    | ok a => exact tells_lines _ a t'

theorem tells_setIdentity (key : Option String) (file : SettingsFile) (t : FileTree) :
    Tells (setIdentity key file t) (file.setIdentity key t) := by
  unfold setIdentity
  cases file.setIdentity key t with
  | mk answer t' =>
    cases answer with
    | error e => exact tells_failed _ e t'
    | ok a =>
      cases key with
      | none => exact tells_lines _ a t'
      | some path => exact tells_lines _ a t'

/-! ## Commands and their sequences -/

variable {place : Place} {c : Command} {cs : List Command}

/-- What a command changes, by its outcome. -/
theorem Place.perform_changesOnly (place : Place) (hc : c.family? ≠ none) (t : FileTree) :
    t.ChangesOnly (place.changed c (place.perform c t).1) (place.perform c t).2 := by
  unfold changed perform
  cases place.stateDirectory with
  | error e => exact .refl t
  | ok directory =>
    dsimp only
    cases c with
    | up options => exact absurd rfl hc
    | addWorkspace w =>
      have hact : ∀ (files : WorkspaceFiles) t, Framed t [files.file w.localId]
          (addWorkspace w files t) := fun files t =>
        (tells_addWorkspace w files t).framed (files.framed_save w t)
      exact framed_onWorkspaces (hact _) t
    | listWorkspaces scope => exact framed_onWorkspaces (fun t => framed_shown t [] _) t
    | removeWorkspace l =>
      have hact : ∀ (files : WorkspaceFiles) t, Framed t [files.file l]
          (removeWorkspace l files t) := fun files t =>
        (tells_removeWorkspace l files t).framed (files.framed_remove l t)
      exact framed_onWorkspaces (hact _) t
    | setPort l port => exact (tells_setPort l port _ t).framed (PortFile.framed_set _ l port t)
    | clearPort l => exact (tells_clearPort l _ t).framed (PortFile.framed_remove _ l t)
    | listPorts => exact .refl t
    | showSettings => exact .refl t
    | setUser user => exact (tells_setUser user _ t).framed (SettingsFile.framed_modify _ _ t)
    | setIdentity key => exact (tells_setIdentity key _ t).framed (SettingsFile.framed_modify _ _ t)

/-- A command on the workspaces that succeeds has found or made their directory. -/
theorem exists_onWorkspaces {directory : Path} {t : FileTree}
    {act : WorkspaceFiles → FileTree → Outcome × FileTree}
    (h : (onWorkspaces directory t act).1.code = 0) :
    ∃ t', onWorkspaces directory t act = act ⟨directory.child "workspaces"⟩ t' := by
  unfold onWorkspaces WorkspaceFiles.create at h ⊢
  cases hmade : t.createDirectory (directory.child "workspaces") with
  | mk made t' =>
    rw [hmade] at h
    cases made with
    | error fault => cases h
    | ok u => exact ⟨t', rfl⟩

/-- A command that succeeds has done what it was asked for. -/
theorem Place.perform_done {directory : Path} {t : FileTree}
    (hstate : place.stateDirectory = .ok directory) (hok : (place.perform c t).1.code = 0) :
    c.Done directory t (place.perform c t).2 := by
  unfold perform at hok ⊢
  rw [hstate] at hok ⊢
  dsimp only at hok ⊢
  cases c with
  | up options => trivial
  | addWorkspace w =>
    obtain ⟨t', hact⟩ := exists_onWorkspaces hok
    dsimp only at hok ⊢
    rw [hact] at hok ⊢
    have htells := tells_addWorkspace w ⟨directory.child "workspaces"⟩ t'
    obtain ⟨l, hl⟩ := exists_of_isOk (htells.code.mp hok)
    rw [htells.tree]
    exact WorkspaceFiles.loadText_save hl
  | listWorkspaces scope => trivial
  | removeWorkspace l =>
    obtain ⟨t', hact⟩ := exists_onWorkspaces hok
    dsimp only at hok ⊢
    rw [hact] at hok ⊢
    have htells := tells_removeWorkspace l ⟨directory.child "workspaces"⟩ t'
    obtain ⟨_, hu⟩ := exists_of_isOk (htells.code.mp hok)
    rw [htells.tree]
    exact WorkspaceFiles.has_remove hu
  | setPort l port =>
    have htells := tells_setPort l port ⟨directory.child "ports.json"⟩ t
    obtain ⟨_, hu⟩ := exists_of_isOk (htells.code.mp hok)
    dsimp only
    rw [htells.tree]
    exact PortFile.get_set hu
  | clearPort l =>
    have htells := tells_clearPort l ⟨directory.child "ports.json"⟩ t
    obtain ⟨found, hfound⟩ := exists_of_isOk (htells.code.mp hok)
    dsimp only
    rw [htells.tree]
    exact PortFile.get_remove hfound
  | listPorts => trivial
  | showSettings => trivial
  | setUser user =>
    have htells := tells_setUser user ⟨directory.child "config.json"⟩ t
    obtain ⟨_, hu⟩ := exists_of_isOk (htells.code.mp hok)
    dsimp only
    rw [htells.tree]
    exact SettingsFile.load_modify hu
  | setIdentity key =>
    have htells := tells_setIdentity key ⟨directory.child "config.json"⟩ t
    obtain ⟨_, hu⟩ := exists_of_isOk (htells.code.mp hok)
    dsimp only
    rw [htells.tree]
    exact SettingsFile.load_modify hu

/-- What a sequence of commands changes, by their outcomes. -/
theorem Place.serve_changesOnly (place : Place) (hcs : ∀ c ∈ cs, c.family? ≠ none) (t : FileTree) :
    t.ChangesOnly ((cs.zip (serve place.perform cs t).1).flatMap fun (c, o) => place.changed c o)
      (serve place.perform cs t).2 := by
  induction cs generalizing t with
  | nil => exact .refl t
  | cons c cs ih =>
    rw [serve_cons, List.zip_cons_cons, List.flatMap_cons]
    have hfirst := place.perform_changesOnly (hcs c (by simp)) t
    exact hfirst.append (ih (fun c' hc' => hcs c' (by simp [hc'])) _)

end Cli

end TunnelFleet
