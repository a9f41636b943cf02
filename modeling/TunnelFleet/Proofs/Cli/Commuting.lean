import TunnelFleet.Proofs.Cli.Framing
import TunnelFleet.Proofs.Storage.Locality

/-!
# Commands that commute

Each family of commands has one place in the state directory of a home. What a command makes of
its place is determined by what stands there, and it leaves the places of the other families alone.
The families share only the state directory itself, which any of them may make. So every family
comes to the same files as if the others had not been used.
-/

namespace TunnelFleet.Cli

open FileTree

variable {t t' t'' u : FileTree} {place : Place} {home : Path} {dir way : Location}
  {F G : Family} {c : Command} {cs cs' : List Command}

/-! ## Places in the state directory -/

/-- Where the state directory of a home is. -/
def stateAt (dir : Location) : Location := dir ++ [".portfleet"]

/-- The name of the place of a family in the state directory. -/
def Family.root : Family → String
  | .workspaces => "workspaces"
  | .ports => "ports.json"
  | .settings => "config.json"

/-- The path of the place of a family. -/
def Family.path (F : Family) (home : Path) : Path := (home.child ".portfleet").child F.root

/-- Where the place of a family is. -/
def Family.location (F : Family) (dir : Location) : Location := stateAt dir ++ [F.root]

theorem stateDirectory_eq (hhome : place.home = some home) :
    place.stateDirectory = .ok (home.child ".portfleet") := by
  rw [Place.stateDirectory, hhome]
  rfl

theorem shortName_state : ShortName ".portfleet" :=
  ⟨⟨by decide, by decide, by decide⟩, by decide⟩

theorem Family.shortName_root (F : Family) : ShortName F.root := by
  cases F with
  | workspaces => exact ⟨⟨by decide, by decide, by decide⟩, by decide⟩
  | ports => exact ⟨⟨by decide, by decide, by decide⟩, by decide⟩
  | settings => exact ⟨⟨by decide, by decide, by decide⟩, by decide⟩

theorem Family.eq_of_root_eq (h : F.root = G.root) : F = G := by
  revert h
  cases F <;> cases G <;> decide

theorem Family.eq_of_location_isPrefix (h : F.location dir <+: G.location dir ++ way) : F = G := by
  unfold location at h
  rw [List.append_assoc, List.prefix_append_right_inj, List.singleton_append,
    List.cons_prefix_cons] at h
  exact eq_of_root_eq h.1

theorem Family.location_not_isPrefix_state (F : Family) (dir : Location) :
    ¬F.location dir <+: stateAt dir := fun h => by
  have hlength := h.length_le
  rw [location, List.length_append, List.length_singleton] at hlength
  omega

/-- Whether a home is a directory, and nothing stands below the place of its state directory unless
there is one. -/
structure Housed (t : FileTree) (home : Path) (dir : Location) : Prop where
  base : t.base home = .ok dir
  directory : t.lookup? dir = some .directory
  below : t.lookup? (stateAt dir) ≠ some .directory →
    ∀ name, t.lookup? (stateAt dir ++ [name]) = none

theorem Housed.of_grounded (ht : t.Grounded) (hbase : t.base home = .ok dir)
    (hdir : t.lookup? dir = some .directory) : Housed t home dir :=
  ⟨hbase, hdir, fun hstate _ => ht.lookup?_eq_none hstate (by simp)⟩

/-! ## One place -/

/-- Whether a tree is another one with something else in the place of a family, or with a state
directory for this place that was made. -/
structure Touches (F : Family) (dir : Location) (t t' : FileTree) : Prop where
  elsewhere : ∀ l, ¬F.location dir <+: l → l ≠ stateAt dir → t'.lookup? l = t.lookup? l
  state : t' = t ∨ t.Clear (stateAt dir) ∧ t'.lookup? (stateAt dir) = some .directory

namespace Touches

theorem refl (F : Family) (dir : Location) (t : FileTree) : Touches F dir t t :=
  ⟨fun _ _ _ => rfl, .inl rfl⟩

theorem ensure (hclear : t.Clear (stateAt dir)) : Touches F dir t (t.ensure (stateAt dir)) where
  elsewhere _ _ hl := (becomes_ensure hclear).elsewhere hl
  state := .inr ⟨hclear, directory_ensure hclear⟩

/-- In a state directory that is there, something may change in the place of the family. -/
theorem becomes (h : Touches F dir t t') (hstate : t'.lookup? (stateAt dir) = some .directory)
    {e? : Option Entry} (hbecomes : t'.Becomes (F.location dir ++ way) e? t'') :
    Touches F dir t t'' where
  elsewhere l hl hne := by
    have hother : l ≠ F.location dir ++ way := fun heq => hl (heq ▸ List.prefix_append _ way)
    exact (hbecomes.elsewhere hother).trans (h.elsewhere l hl hne)
  state := by
    have hother : stateAt dir ≠ F.location dir ++ way := fun heq =>
      F.location_not_isPrefix_state dir (heq ▸ List.prefix_append _ way)
    refine .inr ⟨?_, (hbecomes.elsewhere hother).trans hstate⟩
    obtain rfl | ⟨hclear, -⟩ := h.state
    · intro content hfile
      cases hstate.symm.trans hfile
    · exact hclear

/-- A file in the place of the state directory stays, and none gets there. -/
theorem file_state (h : Touches F dir t t') (content : ByteArray) :
    t'.lookup? (stateAt dir) = some (.file content) ↔
      t.lookup? (stateAt dir) = some (.file content) := by
  obtain rfl | ⟨hclear, hstate⟩ := h.state
  · rfl
  · refine iff_of_false ?_ (hclear content)
    simp [hstate]

theorem clear_state (h : Touches F dir t t') :
    t'.Clear (stateAt dir) ↔ t.Clear (stateAt dir) :=
  forall_congr' fun content => not_congr (h.file_state content)

/-- The places of the other families stay as they are. -/
theorem below_of_ne (h : Touches F dir t t') (hne : F ≠ G) :
    t'.below (G.location dir) = t.below (G.location dir) := by
  funext way
  refine h.elsewhere _ (fun hprefix => hne (Family.eq_of_location_isPrefix hprefix)) fun heq => ?_
  exact G.location_not_isPrefix_state dir (heq ▸ List.prefix_append _ way)

theorem housed (h : Touches F dir t t') (hkeeps : t.KeepsDirectories t')
    (ht : Housed t home dir) : Housed t' home dir where
  base := hkeeps.base ht.base
  directory := hkeeps.directory dir ht.directory
  below hstate := by
    obtain rfl | ⟨-, hdirectory⟩ := h.state
    · exact ht.below hstate
    · exact absurd hdirectory hstate

end Touches

/-- Whether a change is one of the place of a family, and determined by what stands there as long
as no file stands in the place of the state directory. Otherwise nothing is changed. -/
def Local (F : Family) (home : Path) (dir : Location) (change : FileTree → FileTree) : Prop :=
  ∃ act : (Location → Option Entry) → Location → Option Entry, ∀ t, Housed t home dir →
    Touches F dir t (change t) ∧
    (t.Clear (stateAt dir) →
      (change t).below (F.location dir) = act (t.below (F.location dir))) ∧
    (¬t.Clear (stateAt dir) → change t = t)

theorem local_id : Local F home dir id :=
  ⟨id, fun t _ => ⟨.refl F dir t, fun _ => rfl, fun _ => rfl⟩⟩

theorem below_nil (t : FileTree) (F : Family) (dir : Location) :
    t.below (F.location dir) [] = t.lookup? (stateAt dir ++ [F.root]) :=
  congrArg t.lookup? (List.append_nil _)

/-- The text that is stored in the place of a family, by what stands there. -/
def textIn (F : Family) (home : Path) (v : Location → Option Entry) :
    Option (Except StoreError String) :=
  if Fits (home.child ".portfleet") F.root then (v []).map (entryText (F.path home)) else none

theorem stored?_eq (F : Family) (ht : Housed t home dir) :
    t.stored? (F.path home) = textIn F home (t.below (F.location dir)) := by
  rw [textIn, below_nil]
  exact stored?_child_child ht.base ht.directory shortName_state F.shortName_root fun h =>
    ht.below h F.root

/-- What stands in the place of a family and below it once a text was stored there. A directory
stays, and so does everything if the path is too long. -/
def withText (F : Family) (home : Path) (text : String) (v : Location → Option Entry) :
    Location → Option Entry :=
  if Fits (home.child ".portfleet") F.root ∧ v [] ≠ some .directory then
    Function.update v [] (some (.file text.toUTF8))
  else v

theorem saveText_touches (ht : Housed t home dir) (hclear : t.Clear (stateAt dir))
    (hfits : Fits home ".portfleet") (text : String) :
    Touches F dir t (t.saveText (F.path home) text).2 ∧
      (t.saveText (F.path home) text).2.below (F.location dir) =
        withText F home text (t.below (F.location dir)) := by
  have hmade : Touches F dir t (t.ensure (stateAt dir)) := .ensure hclear
  have hkept : (t.ensure (stateAt dir)).below (F.location dir) = t.below (F.location dir) :=
    below_ensure_elsewhere (F.location_not_isPrefix_state dir)
  have hsaved : (t.saveText (F.path home) text).2 =
      if Fits (home.child ".portfleet") F.root ∧ t.below (F.location dir) [] ≠ some .directory then
        (t.ensure (stateAt dir)).put (F.location dir) (.file text.toUTF8)
      else t.ensure (stateAt dir) := by
    rw [below_nil]
    exact saveText_of_clear ht.base ht.directory shortName_state F.shortName_root hfits hclear text
  rw [hsaved, withText]
  by_cases hstored :
      Fits (home.child ".portfleet") F.root ∧ t.below (F.location dir) [] ≠ some .directory
  · have hplace : F.location dir ≠ [] := by simp [Family.location]
    have hbecomes : (t.ensure (stateAt dir)).Becomes (F.location dir ++ [])
        (some (.file text.toUTF8))
        ((t.ensure (stateAt dir)).put (F.location dir) (.file text.toUTF8)) := by
      rw [List.append_nil]
      exact .put hplace _
    rw [if_pos hstored, if_pos hstored, ← hkept]
    exact ⟨hmade.becomes (directory_ensure hclear) hbecomes, hbecomes.below⟩
  · rw [if_neg hstored, if_neg hstored]
    exact ⟨hmade, hkept⟩

/-- What is in the place of a family once a text is stored there, if there is one to store. -/
def rewritten (F : Family) (home : Path)
    (plan : Option (Except StoreError String) → Option String) (v : Location → Option Entry) :
    Location → Option Entry :=
  match plan (textIn F home v) with
  | some text => withText F home text v
  | none => v

section

variable (F : Family) (home : Path) (dir : Location)

/-- A text in the place of a family is stored by what is there. -/
theorem local_rewrite (plan : Option (Except StoreError String) → Option String) :
    Local F home dir fun t => t.rewrite (F.path home) plan := by
  by_cases hfits : Fits home ".portfleet"
  · refine ⟨rewritten F home plan, fun t ht => ?_⟩
    unfold rewritten
    dsimp only
    rw [rewrite, stored?_eq F ht]
    cases plan (textIn F home (t.below (F.location dir))) with
    | none => exact ⟨.refl F dir t, fun _ => rfl, fun _ => rfl⟩
    | some text =>
      by_cases hclear : t.Clear (stateAt dir)
      · obtain ⟨htouches, hbelow⟩ := saveText_touches ht hclear hfits (F := F) text
        exact ⟨htouches, fun _ => hbelow, fun h => absurd hclear h⟩
      · have hsame : (t.saveText (F.path home) text).2 = t :=
          saveText_of_not ht.base ht.directory shortName_state F.shortName_root
            (fun h => hclear h.2) text
        dsimp only
        rw [hsame]
        exact ⟨.refl F dir t, fun h => absurd h hclear, fun _ => rfl⟩
  · refine ⟨id, fun t ht => ?_⟩
    have hsame : t.rewrite (F.path home) plan = t := by
      unfold rewrite
      split
      · exact saveText_of_not ht.base ht.directory shortName_state F.shortName_root
          (fun h => hfits h.1) _
      · rfl
    dsimp only
    rw [hsame]
    exact ⟨.refl F dir t, fun _ => rfl, fun _ => rfl⟩

end

/-- A call of the workspace directory, which is made first if it is missing. -/
def inWorkspaces (directory : Path) (call : WorkspaceCall) (t : FileTree) : FileTree :=
  match WorkspaceFiles.create (directory.child "workspaces") t with
  | (.error _, t) => t
  | (.ok files, t) => (files.perform call t).2

/-- Without a directory for the workspaces there is nothing to call. -/
theorem inWorkspaces_of_fault {directory : Path} {fault : Fault}
    (h : t.createDirectory (directory.child "workspaces") = (.error fault, t'))
    (call : WorkspaceCall) : inWorkspaces directory call t = t' := by
  rw [inWorkspaces, WorkspaceFiles.create, h]

theorem inWorkspaces_of_made {directory : Path}
    (h : t.createDirectory (directory.child "workspaces") = (.ok (), t')) (call : WorkspaceCall) :
    inWorkspaces directory call t =
      ((WorkspaceFiles.mk (directory.child "workspaces")).perform call t').2 := by
  rw [inWorkspaces, WorkspaceFiles.create, h]

/-- What stands in the place of the workspaces and below it once `act` was done to the directory
there. It is made if the place is vacant, and a file stays. -/
def withDirectory (act : (Location → Option Entry) → Location → Option Entry)
    (v : Location → Option Entry) : Location → Option Entry :=
  match v [] with
  | some (.file _) => v
  | _ => act (Function.update v [] (some .directory))

/-- What a call makes of the place of the workspaces, from when the state directory is there. -/
theorem inWorkspaces_touches {s : FileTree} {call : WorkspaceCall}
    {act : (Location → Option Entry) → Location → Option Entry}
    (hact : ∀ t l, t.base (Family.workspaces.path home) = .ok l → t.lookup? l = some .directory →
      ∃ way e?, t.Becomes (l ++ way) e?
          ((WorkspaceFiles.mk (Family.workspaces.path home)).perform call t).2 ∧
        ((WorkspaceFiles.mk (Family.workspaces.path home)).perform call t).2.below l =
          act (t.below l))
    (hmade : Touches .workspaces dir t s) (hstate : s.lookup? (stateAt dir) = some .directory)
    (hbase : s.base (Family.workspaces.path home) = .ok (Family.workspaces.location dir))
    (hcreate : t.createDirectory (Family.workspaces.path home) =
      s.makeDirectories (stateAt dir) ["workspaces"]) :
    Touches .workspaces dir t (inWorkspaces (home.child ".portfleet") call t) ∧
      (inWorkspaces (home.child ".portfleet") call t).below (Family.workspaces.location dir) =
        withDirectory act (s.below (Family.workspaces.location dir)) := by
  have hname : ShortName "workspaces" := Family.workspaces.shortName_root
  by_cases hspot : s.Clear (Family.workspaces.location dir)
  · have hok := hcreate.trans (makeDirectories_of_clear hstate hname hspot [])
    have hgrows := s.grows_ensure (Family.workspaces.location dir)
    have hensured : s.Becomes (Family.workspaces.location dir ++ []) (some .directory)
        (s.ensure (Family.workspaces.location dir)) := by
      rw [List.append_nil]
      exact becomes_ensure hspot
    obtain ⟨way, e?, hbecomes, hbelow⟩ :=
      hact _ _ (hgrows.keepsDirectories.base hbase) (directory_ensure hspot)
    have htouches := hmade.becomes hstate hensured
    rw [inWorkspaces_of_made hok]
    refine ⟨htouches.becomes (hgrows.entry _ _ hstate) hbecomes, hbelow.trans ?_⟩
    rw [hensured.below, withDirectory]
    split
    · next content hfile => exact absurd ((below_nil s _ dir).symm.trans hfile) (hspot content)
    · rfl
  · obtain ⟨fault, hfault⟩ := makeDirectories_of_not_clear hstate hname hspot []
    obtain ⟨content, hfile⟩ : ∃ content,
        s.lookup? (Family.workspaces.location dir) = some (.file content) := by
      simpa [Clear] using hspot
    rw [inWorkspaces_of_fault (hcreate.trans hfault), withDirectory,
      (below_nil s _ dir).trans hfile]
    exact ⟨hmade, rfl⟩

/-- What is done in the directory of the workspaces is done by what is there. -/
theorem local_inWorkspaces (home : Path) (dir : Location) (call : WorkspaceCall) :
    Local .workspaces home dir (inWorkspaces (home.child ".portfleet") call) := by
  have ha := shortName_state
  have hb : ShortName "workspaces" := Family.workspaces.shortName_root
  obtain ⟨act, hact⟩ := (WorkspaceFiles.mk (Family.workspaces.path home)).exists_act call
  by_cases hfits : Fits (home.child ".portfleet") "workspaces"
  · refine ⟨withDirectory act, fun t ht => ?_⟩
    have hcreate := createDirectory_child_child ht.base ht.directory ha hb
    rw [if_pos hfits] at hcreate
    by_cases hclear : t.Clear (stateAt dir)
    · have hstate := directory_ensure hclear
      have hkept : (t.ensure (stateAt dir)).below (Family.workspaces.location dir) =
          t.below (Family.workspaces.location dir) :=
        below_ensure_elsewhere (Family.workspaces.location_not_isPrefix_state dir)
      have hbase := (t.grows_ensure (stateAt dir)).keepsDirectories.base
        ((base_child ht.base ht.directory ha).trans (if_pos (fits_of_fits_child ha hfits)))
      have hbase' := (base_child hbase hstate hb).trans (if_pos hfits)
      have hmade := hcreate.trans (makeDirectories_of_clear ht.directory ha hclear ["workspaces"])
      obtain ⟨htouches, hbelow⟩ := inWorkspaces_touches hact (.ensure hclear) hstate hbase' hmade
      rw [hkept] at hbelow
      exact ⟨htouches, fun _ => hbelow, fun h => absurd hclear h⟩
    · obtain ⟨fault, hfault⟩ := makeDirectories_of_not_clear ht.directory ha hclear ["workspaces"]
      rw [inWorkspaces_of_fault (hcreate.trans hfault)]
      exact ⟨.refl _ dir t, fun h => absurd h hclear, fun _ => rfl⟩
  · refine ⟨id, fun t ht => ?_⟩
    have hcreate := createDirectory_child_child ht.base ht.directory ha hb
    rw [if_neg hfits] at hcreate
    rw [inWorkspaces_of_fault hcreate]
    exact ⟨.refl _ dir t, fun _ => rfl, fun _ => rfl⟩

/-! ## One command -/

theorem tree_onWorkspaces {directory : Path} {call : WorkspaceCall}
    {act : WorkspaceFiles → FileTree → Outcome × FileTree}
    (hact : ∀ files t, (act files t).2 = (files.perform call t).2) (t : FileTree) :
    (onWorkspaces directory t act).2 = inWorkspaces directory call t := by
  unfold onWorkspaces inWorkspaces
  cases WorkspaceFiles.create (directory.child "workspaces") t with
  | mk made t' =>
    cases made with
    | error e => rfl
    | ok files => exact hact files t'

/-- A command that tells how it went to rewrite the place of its family is determined by what stands
there. -/
theorem local_of_tells {α : Type} {act : FileTree → Outcome × FileTree}
    {call : FileTree → Except StoreError α × FileTree} (htells : ∀ t, Tells (act t) (call t))
    (hplan : ∃ plan, ∀ t, (call t).2 = t.rewrite (F.path home) plan) :
    Local F home dir fun t => (act t).2 := by
  obtain ⟨plan, hplan⟩ := hplan
  simp only [(htells _).tree, hplan]
  exact local_rewrite F home dir plan

theorem local_of_workspaces {call : WorkspaceCall}
    {act : WorkspaceFiles → FileTree → Outcome × FileTree}
    (hact : ∀ files t, (act files t).2 = (files.perform call t).2) :
    Local .workspaces home dir fun t => (onWorkspaces (home.child ".portfleet") t act).2 := by
  simp only [tree_onWorkspaces hact]
  exact local_inWorkspaces home dir call

/-- What a command makes of the place of its family is determined by what stands there. -/
theorem perform_local (hhome : place.home = some home) (hc : c.family? = some F) (dir : Location) :
    Local F home dir fun t => (place.perform c t).2 := by
  unfold Place.perform
  rw [stateDirectory_eq hhome]
  cases c with
  | up options => cases hc
  | addWorkspace w =>
    cases hc
    have hsave (files : WorkspaceFiles) (t : FileTree) :
        (addWorkspace w files t).2 = (files.perform (.save w) t).2 := by
      rw [(tells_addWorkspace w files t).tree, WorkspaceFiles.perform]
    exact local_of_workspaces hsave
  | listWorkspaces scope =>
    cases hc
    have hlist (files : WorkspaceFiles) (t : FileTree) :
        (listWorkspaces scope files t, t).2 = (files.perform .list t).2 := rfl
    exact local_of_workspaces hlist
  | removeWorkspace l =>
    cases hc
    have hremove (files : WorkspaceFiles) (t : FileTree) :
        (removeWorkspace l files t).2 = (files.perform (.remove l) t).2 := by
      rw [(tells_removeWorkspace l files t).tree, WorkspaceFiles.perform]
    exact local_of_workspaces hremove
  | setPort l port =>
    cases hc
    exact local_of_tells (tells_setPort l port _) (PortFile.exists_rewrite_set _ l port)
  | clearPort l =>
    cases hc
    exact local_of_tells (tells_clearPort l _) (PortFile.exists_rewrite_remove _ l)
  | listPorts =>
    cases hc
    exact local_id
  | showSettings =>
    cases hc
    exact local_id
  | setUser user =>
    cases hc
    exact local_of_tells (tells_setUser user _) (SettingsFile.exists_rewrite_modify _ _)
  | setIdentity key =>
    cases hc
    exact local_of_tells (tells_setIdentity key _) (SettingsFile.exists_rewrite_modify _ _)

/-! ## Sequences of commands -/

/-- Whether the place of a family is the same in two trees, and a file stands in the place of the
state directory in both or in none. -/
structure Alike (F : Family) (dir : Location) (t u : FileTree) : Prop where
  clear : t.Clear (stateAt dir) ↔ u.Clear (stateAt dir)
  below : t.below (F.location dir) = u.below (F.location dir)

theorem Alike.refl (F : Family) (dir : Location) (t : FileTree) : Alike F dir t t := ⟨.rfl, rfl⟩

theorem Alike.perform (hhome : place.home = some home) (hc : c.family? = some F)
    (ht : Housed t home dir) (hu : Housed u home dir) (h : Alike F dir t u) :
    Alike F dir (place.perform c t).2 (place.perform c u).2 := by
  obtain ⟨act, hact⟩ := perform_local hhome hc dir
  obtain ⟨htouches, hbelow, hkept⟩ := hact t ht
  obtain ⟨htouches', hbelow', hkept'⟩ := hact u hu
  constructor
  · rw [htouches.clear_state, htouches'.clear_state, h.clear]
  · by_cases hclear : t.Clear (stateAt dir)
    · rw [hbelow hclear, hbelow' (h.clear.mp hclear), h.below]
    · dsimp only at hkept hkept'
      rw [hkept hclear, hkept' (mt h.clear.mpr hclear), h.below]

/-- A command of another family may be left out. -/
theorem Alike.perform_other (hhome : place.home = some home) (hc : c.family? = some G) (hne : G ≠ F)
    (ht : Housed t home dir) (h : Alike F dir t u) : Alike F dir (place.perform c t).2 u := by
  obtain ⟨act, hact⟩ := perform_local hhome hc dir
  obtain ⟨htouches, -, -⟩ := hact t ht
  constructor
  · exact htouches.clear_state.trans h.clear
  · exact (htouches.below_of_ne hne).trans h.below

theorem Housed.perform (hhome : place.home = some home) (hc : c.family? ≠ none)
    (ht : Housed t home dir) : Housed (place.perform c t).2 home dir := by
  obtain ⟨F, hF⟩ := Option.ne_none_iff_exists'.mp hc
  obtain ⟨act, hact⟩ := perform_local hhome hF dir
  exact (hact t ht).1.housed (place.perform_changesOnly hc t).keeps ht

/-- The place of a family is as if only the commands of this family had been performed. -/
theorem Alike.serve (hhome : place.home = some home) (hcs : ∀ c ∈ cs, c.family? ≠ none)
    (ht : Housed t home dir) (hu : Housed u home dir) (h : Alike F dir t u) :
    Alike F dir (TunnelFleet.serve place.perform cs t).2
      (TunnelFleet.serve place.perform (cs.filter (·.family? = some F)) u).2 := by
  induction cs generalizing t u with
  | nil => exact h
  | cons c cs ih =>
    have hc := hcs c (by simp)
    have hrest := fun c' hc' => hcs c' (List.mem_cons_of_mem c hc')
    obtain ⟨G, hG⟩ := Option.ne_none_iff_exists'.mp hc
    rw [serve_cons, List.filter_cons]
    by_cases hfamily : c.family? = some F
    · rw [if_pos (by simpa using hfamily), serve_cons]
      exact ih hrest (ht.perform hhome hc) (hu.perform hhome hc) (h.perform hhome hfamily ht hu)
    · have hne : G ≠ F := fun heq => hfamily (heq ▸ hG)
      rw [if_neg (by simpa using hfamily)]
      exact ih hrest (ht.perform hhome hc) hu (h.perform_other hhome hG hne ht)

/-- Outside of the places of the families all files stay as they are. -/
theorem serve_elsewhere (hhome : place.home = some home) (hcs : ∀ c ∈ cs, c.family? ≠ none)
    (ht : Housed t home dir) {l : Location} (hl : ∀ F : Family, ¬F.location dir <+: l)
    (content : ByteArray) :
    (serve place.perform cs t).2.lookup? l = some (.file content) ↔
      t.lookup? l = some (.file content) := by
  induction cs generalizing t with
  | nil => rfl
  | cons c cs ih =>
    have hc := hcs c (by simp)
    obtain ⟨F, hF⟩ := Option.ne_none_iff_exists'.mp hc
    obtain ⟨act, hact⟩ := perform_local hhome hF dir
    obtain ⟨htouches, -, -⟩ := hact t ht
    rw [serve_cons]
    refine (ih (fun c' hc' => hcs c' (List.mem_cons_of_mem c hc')) (ht.perform hhome hc)).trans ?_
    by_cases hstate : l = stateAt dir
    · rw [hstate]
      exact htouches.file_state content
    · dsimp only at htouches
      rw [htouches.elsewhere l (hl F) hstate]

/-- Without a home every command fails. -/
theorem serve_of_homeless (hhome : place.home = none) (cs : List Command) (t : FileTree) :
    (serve place.perform cs t).2 = t := by
  induction cs with
  | nil => rfl
  | cons c cs ih =>
    have hfirst : (place.perform c t).2 = t := by
      rw [Place.perform, Place.stateDirectory, hhome]
    rw [serve_cons, hfirst, ih]

/-- Sequences that have the same commands of each family leave the same files. -/
theorem serve_sameFiles (hhome : place.home = some home) (ht : Housed t home dir)
    (hcs : ∀ c ∈ cs, c.family? ≠ none) (hcs' : ∀ c ∈ cs', c.family? ≠ none)
    (hsame : ∀ F, cs.filter (·.family? = some F) = cs'.filter (·.family? = some F)) :
    (serve place.perform cs t).2.SameFiles (serve place.perform cs' t).2 := by
  intro l content
  by_cases hplace : ∃ F : Family, F.location dir <+: l
  · obtain ⟨F, way, rfl⟩ := hplace
    have hbelow := (Alike.serve hhome hcs ht ht (.refl F dir t)).below
    have hbelow' := (Alike.serve hhome hcs' ht ht (.refl F dir t)).below
    rw [hsame F, ← hbelow'] at hbelow
    have hlookup : (serve place.perform cs t).2.lookup? (F.location dir ++ way) =
        (serve place.perform cs' t).2.lookup? (F.location dir ++ way) := congrFun hbelow way
    rw [hlookup]
  · have houtside : ∀ F : Family, ¬F.location dir <+: l := fun F hF => hplace ⟨F, hF⟩
    exact (serve_elsewhere hhome hcs' ht houtside content).trans
      (serve_elsewhere hhome hcs ht houtside content).symm

/-- The commands that keep the state of the user are framed and atomic, whatever the tree holds. One
that fails leaves every file as it was. One that succeeds has done what it was asked for, changes
the file that it is about and no other one, and those that show what is there change none. So after
a sequence of commands only the files of those that succeeded can be others. In a home that is a
directory, commands of different families commute: as long as each family has the same commands in
the same order, it does not matter for the files how they are mixed. -/
theorem commands_framed (place : Place) :
    (∀ (c : Command) (t : FileTree), c.family? ≠ none →
      ((place.perform c t).1.code ≠ 0 → t.SameFiles (place.perform c t).2) ∧
      ∀ directory, place.stateDirectory = .ok directory →
        t.ChangesOnly (c.targets directory) (place.perform c t).2 ∧
        ((place.perform c t).1.code = 0 → c.Done directory t (place.perform c t).2)) ∧
    (∀ (cs : List Command) (t : FileTree), (∀ c ∈ cs, c.family? ≠ none) →
      t.ChangesOnly
        ((cs.zip (serve place.perform cs t).1).flatMap fun (c, o) => place.changed c o)
        (serve place.perform cs t).2) ∧
    ∀ (cs cs' : List Command) (t : FileTree), t.Grounded →
      (∀ home, place.home = some home →
        ∃ dir, t.base home = .ok dir ∧ t.lookup? dir = some .directory) →
      (∀ c ∈ cs, c.family? ≠ none) → (∀ c ∈ cs', c.family? ≠ none) →
      (∀ F, cs.filter (·.family? = some F) = cs'.filter (·.family? = some F)) →
      (serve place.perform cs t).2.SameFiles (serve place.perform cs' t).2 := by
  refine ⟨fun c t hc => ⟨fun hcode => ?_, fun directory hstate => ⟨?_, ?_⟩⟩,
    fun cs t hcs => place.serve_changesOnly hcs t,
    fun cs cs' t hgrounded hhome hcs hcs' hsame => ?_⟩
  · have hchanges := place.perform_changesOnly hc t
    have hnone : place.changed c (place.perform c t).1 = [] := by
      unfold Place.changed
      split
      · exact if_neg hcode
      · rfl
    rw [hnone] at hchanges
    exact hchanges.sameFiles
  · refine (place.perform_changesOnly hc t).mono fun p hp => ?_
    rw [Place.changed, hstate] at hp
    dsimp only at hp
    split at hp
    · exact hp
    · cases hp
  · exact place.perform_done hstate
  · cases hplace : place.home with
    | none =>
      rw [serve_of_homeless hplace, serve_of_homeless hplace]
      exact .refl t
    | some home =>
      obtain ⟨dir, hbase, hdir⟩ := hhome home hplace
      exact serve_sameFiles hplace (.of_grounded hgrounded hbase hdir) hcs hcs' hsame

/-- A home without a state directory: a port that cannot be pinned, and commands of all families in
two orders. -/
theorem commands_framed_first_use :
    let place : Place :=
      { home := some ⟨["", "home"]⟩, sampler := { number := id, bindable := fun _ _ => true } }
    let t : FileTree :=
      { entries := .ofList [(["home"], .directory), (["home", "notes"], .file "keep".toUTF8)]
          compare }
    let web : Workspace := { id := "1001", name := "web", address := "10.0.0.1" }
    let cs : List Command := [.addWorkspace web, .setPort web.localId 8022, .setUser "dev"]
    let cs' : List Command := [.setUser "dev", .setPort web.localId 8022, .addWorkspace web]
    t.SameFiles (place.perform (.setPort web.localId 0) t).2 ∧
      (place.perform (.setUser "dev") t).1.code = 0 ∧
      (Command.setUser "dev").Done ⟨["", "home", ".portfleet"]⟩ t
        (place.perform (.setUser "dev") t).2 ∧
      t.ChangesOnly
        ((cs.zip (serve place.perform cs t).1).flatMap fun (c, o) => place.changed c o)
        (serve place.perform cs t).2 ∧
      (serve place.perform cs t).2.SameFiles (serve place.perform cs' t).2 := by
  intro place t web cs cs'
  obtain ⟨hcommand, hsequence, hcommute⟩ := commands_framed place
  have hcs : ∀ c ∈ cs, c.family? ≠ none := by decide +kernel
  have hcs' : ∀ c ∈ cs', c.family? ≠ none := by decide +kernel
  have hsame : ∀ F, cs.filter (·.family? = some F) = cs'.filter (·.family? = some F) := by
    intro F
    cases F <;> decide +kernel
  have hhome : ∀ home, place.home = some home →
      ∃ dir, t.base home = .ok dir ∧ t.lookup? dir = some .directory := by
    intro home hplace
    obtain rfl := Option.some.inj hplace
    exact ⟨["home"], by decide +kernel, by decide +kernel⟩
  have huser : (place.perform (.setUser "dev") t).1.code = 0 := by decide +kernel
  obtain ⟨hfails, -⟩ := hcommand (.setPort web.localId 0) t (by decide)
  obtain ⟨-, hdone⟩ := hcommand (.setUser "dev") t (by decide)
  refine ⟨hfails (by decide +kernel), huser, (hdone _ rfl).2 huser, hsequence cs t hcs, ?_⟩
  exact hcommute cs cs' t (by decide +kernel) hhome hcs hcs' hsame

end TunnelFleet.Cli
