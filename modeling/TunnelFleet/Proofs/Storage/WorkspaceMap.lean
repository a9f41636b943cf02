import TunnelFleet.Proofs.Storage.Serving
import TunnelFleet.Proofs.Storage.WorkspaceFiles

/-!
# The workspace directory as a map

Whatever is asked of a directory of workspaces that was empty in the beginning, it answers
like a map from local ids to workspaces. A workspace is stored under the local id that its
name and its id make, in place of the one that was there before. It is loaded and listed as it
was stored, whatever its texts are.
-/

namespace TunnelFleet

variable {d : WorkspaceFiles} {t : FileTree} {dir : Location} {roster : Roster} {l : LocalId}
  {w : Workspace}

/-! ## Listing -/

theorem WorkspaceFiles.pairwise_sortByLocalId (ws : List Workspace) :
    (sortByLocalId ws).Pairwise fun a b => (compare a.localId b.localId).isLE = true := by
  have htotal : ∀ a b : Workspace,
      (compare a.localId b.localId).isLE || (compare b.localId a.localId).isLE := by
    intro a b
    have hswap : compare b.localId a.localId = (compare a.localId b.localId).swap :=
      Std.OrientedCmp.eq_swap
    rw [hswap]
    cases compare a.localId b.localId <;> rfl
  exact List.pairwise_mergeSort (fun _ _ _ => Std.TransCmp.isLE_trans) htotal ws

namespace Roster

/-- The workspaces of a roster, in the order of their local ids. -/
def workspaces (roster : Roster) : List Workspace := roster.toList.map Prod.snd

/-- Whether every workspace of a roster stands under its own local id. -/
def Keyed (roster : Roster) : Prop :=
  ∀ (l : LocalId) (w : Workspace), roster[l]? = some w → w.localId = l

namespace Keyed

theorem mem_workspaces (h : Keyed roster) :
    w ∈ workspaces roster ↔ roster[w.localId]? = some w := by
  unfold workspaces
  constructor
  · intro hmem
    obtain ⟨⟨l, v⟩, hentry, rfl⟩ := List.mem_map.mp hmem
    have hlookup := Std.ExtTreeMap.mem_toList_iff_getElem?_eq_some.mp hentry
    rw [h l v hlookup]
    exact hlookup
  · intro hlookup
    have hentry : (w.localId, w) ∈ roster.toList :=
      Std.ExtTreeMap.mem_toList_iff_getElem?_eq_some.mpr hlookup
    exact List.mem_map.mpr ⟨(w.localId, w), hentry, rfl⟩

theorem pairwise_workspaces (h : Keyed roster) :
    (workspaces roster).Pairwise fun a b => compare a.localId b.localId = .lt := by
  unfold workspaces
  rw [List.pairwise_map]
  refine Std.ExtTreeMap.ordered_keys_toList.imp_of_mem fun {a b} ha hb hlt => ?_
  have hkey : ∀ entry ∈ roster.toList, entry.2.localId = entry.1 := fun entry hentry =>
    h entry.1 entry.2 (Std.ExtTreeMap.mem_toList_iff_getElem?_eq_some.mp hentry)
  rw [hkey a ha, hkey b hb]
  exact hlt

/-- Only one workspace of a roster has a local id. -/
theorem eq_of_localId (h : Keyed roster) {a b : Workspace} (ha : a ∈ workspaces roster)
    (hb : b ∈ workspaces roster) (hlocal : a.localId = b.localId) : a = b := by
  have hstored := h.mem_workspaces.mp ha
  rw [hlocal, h.mem_workspaces.mp hb] at hstored
  exact (Option.some.inj hstored).symm

/-- Sorting the workspaces of a roster, however they are met, puts them in the order of the
roster. -/
theorem sortByLocalId_eq (h : Keyed roster) {ws : List Workspace} (hnodup : ws.Nodup)
    (hmem : ∀ w, w ∈ ws ↔ roster[w.localId]? = some w) :
    WorkspaceFiles.sortByLocalId ws = workspaces roster := by
  have hordered := h.pairwise_workspaces
  have hlisted : (workspaces roster).Nodup := hordered.imp fun {a b} hlt heq => by
    have hself : compare b.localId b.localId = .eq := Std.ReflCmp.compare_self
    rw [heq, hself] at hlt
    cases hlt
  have hperm : (WorkspaceFiles.sortByLocalId ws).Perm (workspaces roster) := by
    refine (List.mergeSort_perm ws _).trans ((List.perm_ext_iff_of_nodup hnodup hlisted).mpr ?_)
    exact fun w => (hmem w).trans h.mem_workspaces.symm
  have hweak : (workspaces roster).Pairwise fun a b =>
      (compare a.localId b.localId).isLE = true := hordered.imp fun hlt => by
    rw [hlt]
    rfl
  refine hperm.eq_of_pairwise ?_ (WorkspaceFiles.pairwise_sortByLocalId ws) hweak
  intro a b ha hb hab hba
  exact h.eq_of_localId (hperm.subset ha) hb
    (Std.LawfulEqOrd.eq_of_compare (Std.OrientedCmp.isLE_antisymm hab hba))

end Keyed

end Roster

namespace WorkspaceFiles

theorem Stores.keyed (h : d.Stores t dir roster) : roster.Keyed := fun _ _ hw => (h.stored hw).1

/-- Reading the files of stored workspaces yields the workspaces, without a warning. -/
theorem Stores.readAll (h : d.Stores t dir roster) {names : List String}
    (hnames : ∀ name ∈ names, ∃ l ∈ roster, name = fileName l) :
    ∃ ws, d.readAll t names = (.ok ws, []) ∧ names = ws.map (fileName ·.localId) ∧
      ∀ w ∈ ws, roster[w.localId]? = some w := by
  induction names with
  | nil => exact ⟨[], rfl, rfl, nofun⟩
  | cons name names ih =>
    obtain ⟨ws, hrest, hrestnames, hall⟩ := ih fun other hother =>
      hnames other (List.mem_cons_of_mem name hother)
    obtain ⟨l, hl, rfl⟩ := hnames name List.mem_cons_self
    obtain ⟨w, hw⟩ :=
      Option.isSome_iff_exists.mp (Std.ExtTreeMap.mem_iff_isSome_getElem?.mp hl)
    obtain ⟨rfl, hallowed, -⟩ := h.stored hw
    refine ⟨w :: ws, ?_, ?_, List.forall_mem_cons.mpr ⟨hw, hall⟩⟩
    · rw [WorkspaceFiles.readAll, extension?_fileName hallowed.1, ← file_eq, h.read_file hw, hrest]
      rfl
    · rw [List.map_cons, ← hrestnames]

/-- Reading everything in the directory yields every workspace of the roster once. -/
theorem Stores.readAll_directory (h : d.Stores t dir roster) :
    ∃ ws, d.readAll t ((t.childrenOf dir).map Prod.fst) = (.ok ws, []) ∧ ws.Nodup ∧
      ∀ w, w ∈ ws ↔ roster[w.localId]? = some w := by
  have honly : ∀ name ∈ (t.childrenOf dir).map Prod.fst, ∃ l ∈ roster, name = fileName l := by
    intro name hname
    obtain ⟨⟨_, e⟩, hchild, rfl⟩ := List.mem_map.mp hname
    exact h.only _ e (FileTree.mem_childrenOf.mp hchild)
  obtain ⟨ws, hread, hnames, hws⟩ := h.readAll honly
  refine ⟨ws, hread, ?_, fun w => ⟨hws w, fun hw => ?_⟩⟩
  · have hdistinct := FileTree.nodup_childrenOf t dir
    rw [hnames, List.Nodup, List.pairwise_map] at hdistinct
    exact hdistinct.imp fun hne heq => hne (by rw [heq])
  · -- The file of the workspace is in the directory, so a workspace was read from it.
    have hchild : (fileName w.localId, entryOf w) ∈ t.childrenOf dir := by
      rw [FileTree.mem_childrenOf, h.file, hw]
      rfl
    have hname : fileName w.localId ∈ (t.childrenOf dir).map Prod.fst :=
      List.mem_map.mpr ⟨_, hchild, rfl⟩
    rw [hnames] at hname
    obtain ⟨v, hv, hsame⟩ := List.mem_map.mp hname
    have hvw := hws v hv
    rw [fileName_inj.mp hsame, hw] at hvw
    exact Option.some.inj hvw ▸ hv

/-- The listing is the whole roster, in order. -/
theorem Stores.list (h : d.Stores t dir roster) :
    d.list t = (.ok (Roster.workspaces roster), []) := by
  have hnames : t.names d.directory = .ok ((t.childrenOf dir).map Prod.fst) :=
    FileTree.names_eq_ok.mpr ⟨dir, h.located, h.directory, rfl⟩
  obtain ⟨ws, hread, hnodup, hmem⟩ := h.readAll_directory
  rw [WorkspaceFiles.list, hnames]
  simp only [hread, Except.map, h.keyed.sortByLocalId_eq hnodup hmem]

theorem Stores.listScope (h : d.Stores t dir roster) (scope : Scope) :
    d.listScope scope t = (.ok (roster.workspaces.filter scope.includes), []) := by
  unfold WorkspaceFiles.listScope
  rw [h.list]

end WorkspaceFiles

/-! ## Calls -/

/-- A call of a directory of workspaces. -/
inductive WorkspaceCall
  | save (w : Workspace)
  | load (l : LocalId)
  | remove (l : LocalId)
  | list
  | listScope (scope : Scope)

/-- The answer to a call of a directory of workspaces. A listing comes with its warnings. -/
inductive WorkspaceAnswer
  | save (result : Except StoreError LocalId)
  | load (result : Except StoreError Workspace)
  | remove (result : Except StoreError Unit)
  | list (result : Except StoreError (List Workspace)) (logs : List LogLine)
  | listScope (result : Except DirectoryUnavailable (List Workspace)) (logs : List LogLine)

/-- Whether an answer is no error. -/
def WorkspaceAnswer.isOk : WorkspaceAnswer → Bool
  | .save result => result.isOk
  | .load result => result.isOk
  | .remove result => result.isOk
  | .list result _ => result.isOk
  | .listScope result _ => result.isOk

/-- Answers a call from the directory. -/
def WorkspaceFiles.perform (d : WorkspaceFiles) (call : WorkspaceCall) (t : FileTree) :
    WorkspaceAnswer × FileTree :=
  match call with
  | .save w => (.save (d.save w t).1, (d.save w t).2)
  | .load l => (.load (d.load l t), t)
  | .remove l => (.remove (d.remove l t).1, (d.remove l t).2)
  | .list => (.list (d.list t).1 (d.list t).2, t)
  | .listScope scope => (.listScope (d.listScope scope t).1 (d.listScope scope t).2, t)

namespace Roster

/-- Stores a workspace in a roster, if its local id is allowed and the system takes the path of its
file. -/
def save (d : WorkspaceFiles) (w : Workspace) (roster : Roster) :
    Except StoreError LocalId × Roster :=
  if w.localId.NameAllowed ∧ d.Fits w.localId then (.ok w.localId, roster.insert w.localId w)
  else
    (w.localId.check.bind fun _ => .error (.ofFault (d.file w.localId) .nameTooLong), roster)

/-- The workspace stored under a local id. -/
def find (l : LocalId) (roster : Roster) : Except StoreError Workspace :=
  l.check.bind fun _ =>
    match roster[l]? with
    | some w => .ok w
    | none => .error (.notFound l.text)

/-- Removes the workspace stored under a local id. -/
def remove (l : LocalId) (roster : Roster) : Except StoreError Unit × Roster :=
  match roster.find l with
  | .ok _ => (.ok (), roster.erase l)
  | .error e => (.error e, roster)

/-- Answers a call from a roster. -/
def perform (d : WorkspaceFiles) (call : WorkspaceCall) (roster : Roster) :
    WorkspaceAnswer × Roster :=
  match call with
  | .save w => (.save (roster.save d w).1, (roster.save d w).2)
  | .load l => (.load (roster.find l), roster)
  | .remove l => (.remove (roster.remove l).1, (roster.remove l).2)
  | .list => (.list (.ok roster.workspaces) [], roster)
  | .listScope scope => (.listScope (.ok (roster.workspaces.filter scope.includes)) [], roster)

end Roster

namespace WorkspaceFiles

/-! ## Calls that leave the directory alone -/

/-- Saving a workspace is refused, or writes its file and tells its local id. -/
theorem save_cases (d : WorkspaceFiles) (w : Workspace) (t : FileTree) :
    (∃ e, d.save w t = (.error e, t)) ∨ ∃ t', d.save w t = (.ok w.localId, t') := by
  unfold save
  split
  · exact .inl ⟨_, rfl⟩
  · split
    · exact .inl ⟨_, rfl⟩
    · exact .inr ⟨_, rfl⟩

/-- Removing a workspace is refused, or removes its file. -/
theorem remove_cases (d : WorkspaceFiles) (l : LocalId) (t : FileTree) :
    (∃ e, d.remove l t = (.error e, t)) ∨ ∃ t', d.remove l t = (.ok (), t') := by
  unfold remove
  split
  · exact .inl ⟨_, rfl⟩
  · split
    · split
      · exact .inl ⟨_, rfl⟩
      · exact .inr ⟨_, rfl⟩
    · exact .inl ⟨_, rfl⟩

theorem perform_failed {call : WorkspaceCall} (h : (d.perform call t).1.isOk = false) :
    (d.perform call t).2 = t := by
  cases call with
  | save w =>
    obtain ⟨e, hsave⟩ | ⟨t', hsave⟩ := d.save_cases w t
    · rw [perform, hsave]
    · rw [perform, hsave] at h
      cases h
  | remove l =>
    obtain ⟨e, hremove⟩ | ⟨t', hremove⟩ := d.remove_cases l t
    · rw [perform, hremove]
    · rw [perform, hremove] at h
      cases h
  | load l => rfl
  | list => rfl
  | listScope scope => rfl

/-! ## A directory of stored workspaces -/

namespace Stores

theorem save (h : d.Stores t dir roster) (w : Workspace) :
    (d.save w t).1 = (roster.save d w).1 ∧ d.Stores (d.save w t).2 dir (roster.save d w).2 := by
  unfold WorkspaceFiles.save Roster.save
  cases hcheck : w.localId.check with
  | error e =>
    have hname : ¬w.localId.NameAllowed := fun hl =>
      nomatch hcheck.symm.trans (LocalId.check_eq_ok_iff.mpr hl)
    rw [if_neg fun hl => hname hl.1]
    exact ⟨rfl, h⟩
  | ok u =>
    have hl : w.localId.NameAllowed := LocalId.check_eq_ok_iff.mp hcheck
    have hslash : (d.file w.localId).endsInSlash = false := d.endsInSlash_file hl
    dsimp only
    by_cases hfits : d.Fits w.localId
    · have hvacant : t.lookup? (dir ++ [fileName w.localId]) ≠ some .directory := by
        rw [h.file]
        cases roster[w.localId]? <;> simp [entryOf]
      have hwrite : t.writeText (d.file w.localId) w.toJson.pretty =
          .ok (t.put (dir ++ [fileName w.localId]) (entryOf w)) :=
        FileTree.write_eq_ok.mpr
          ⟨hslash, _, (h.locate_file hl).trans (if_pos hfits), hvacant, rfl⟩
      rw [hwrite, if_pos ⟨hl, hfits⟩]
      exact ⟨rfl, h.insert hl hfits⟩
    · rw [FileTree.writeText_of_locate_error hslash ((h.locate_file hl).trans (if_neg hfits)),
        if_neg fun hl => hfits hl.2]
      exact ⟨rfl, h⟩

theorem load (h : d.Stores t dir roster) (l : LocalId) : d.load l t = roster.find l := by
  unfold WorkspaceFiles.load Roster.find
  cases hcheck : l.check with
  | error e => rfl
  | ok u =>
    have hl : l.NameAllowed := LocalId.check_eq_ok_iff.mp hcheck
    dsimp only
    rw [h.has_file hl]
    cases hw : roster[l]? with
    | some w => exact h.read_file hw
    | none => rfl

theorem remove (h : d.Stores t dir roster) (l : LocalId) :
    (d.remove l t).1 = (roster.remove l).1 ∧
      d.Stores (d.remove l t).2 dir (roster.remove l).2 := by
  unfold WorkspaceFiles.remove Roster.remove Roster.find
  cases hcheck : l.check with
  | error e => exact ⟨rfl, h⟩
  | ok u =>
    have hl : l.NameAllowed := LocalId.check_eq_ok_iff.mp hcheck
    dsimp only
    rw [h.has_file hl]
    cases hw : roster[l]? with
    | some w =>
      have hfile : t.lookup? (dir ++ [fileName l]) = some (entryOf w) := by
        rw [h.file, hw]
        rfl
      rw [FileTree.remove_of_locate (h.locate_stored hw) hfile]
      exact ⟨rfl, h.erase hw⟩
    | none => exact ⟨rfl, h⟩

/-- A call of a directory of stored workspaces is answered from their roster, and leaves the
directory with the files of the roster that the call leaves. -/
theorem perform (h : d.Stores t dir roster) (call : WorkspaceCall) :
    (d.perform call t).1 = (Roster.perform d call roster).1 ∧
      d.Stores (d.perform call t).2 dir (Roster.perform d call roster).2 := by
  cases call with
  | save w =>
    obtain ⟨hanswer, hstores⟩ := h.save w
    rw [WorkspaceFiles.perform, Roster.perform]
    dsimp only
    exact ⟨congrArg WorkspaceAnswer.save hanswer, hstores⟩
  | load l =>
    rw [WorkspaceFiles.perform, Roster.perform, h.load]
    exact ⟨rfl, h⟩
  | remove l =>
    obtain ⟨hanswer, hstores⟩ := h.remove l
    rw [WorkspaceFiles.perform, Roster.perform]
    dsimp only
    exact ⟨congrArg WorkspaceAnswer.remove hanswer, hstores⟩
  | list =>
    rw [WorkspaceFiles.perform, Roster.perform, h.list]
    exact ⟨rfl, h⟩
  | listScope scope =>
    rw [WorkspaceFiles.perform, Roster.perform, h.listScope]
    exact ⟨rfl, h⟩

end Stores

/-! ## Sequences of calls -/

/-- A directory of workspaces refines a map from local ids to workspaces. If it is empty in the
beginning, every sequence of calls is answered as from a map that is empty in the beginning, and
afterwards the listing is the map: every workspace in it, once, in the order of the local ids.
Whatever a directory holds, a call that answers with an error changes nothing, and a name that is
not allowed is refused as invalid. -/
theorem calls_answered_by_roster (d : WorkspaceFiles) :
    (∀ t, t.names d.directory = .ok [] → ∀ calls,
      let served := serve d.perform calls t
      let answered := serve (Roster.perform d) calls ∅
      served.1 = answered.1 ∧
      ∃ ws, d.list served.2 = (.ok ws, []) ∧
        (∀ (l : LocalId) (w : Workspace),
          answered.2[l]? = some w ↔ w ∈ ws ∧ w.localId = l) ∧
        ws.Pairwise fun a b => compare a.localId b.localId = .lt) ∧
    ∀ t,
      (∀ call, (d.perform call t).1.isOk = false → (d.perform call t).2 = t) ∧
      (∀ l : LocalId, ¬l.NameAllowed → ∃ reason,
        d.load l t = .error (.invalidName reason) ∧
          d.remove l t = (.error (.invalidName reason), t)) ∧
      ∀ w : Workspace, ¬w.localId.NameAllowed → ∃ reason,
        d.save w t = (.error (.invalidName reason), t) := by
  refine ⟨fun t hempty calls => ?_, fun t => ⟨fun call => perform_failed, ?_, ?_⟩⟩
  · obtain ⟨dir, hstores⟩ := Stores.empty hempty
    obtain ⟨hanswers, hend⟩ := serve_alike
      (fun call t roster (h : d.Stores t dir roster) => h.perform call) hstores calls
    have hkeyed := hend.keyed
    refine ⟨hanswers, _, hend.list, fun l w => ?_, hkeyed.pairwise_workspaces⟩
    rw [hkeyed.mem_workspaces]
    constructor
    · intro hw
      have hlocal := hkeyed l w hw
      exact ⟨hlocal ▸ hw, hlocal⟩
    · rintro ⟨hw, rfl⟩
      exact hw
  · intro l hl
    obtain ⟨reason, hcheck⟩ := LocalId.check_of_not_allowed hl
    exact ⟨reason, by rw [load, hcheck], by rw [remove, hcheck]⟩
  · intro w hl
    obtain ⟨reason, hcheck⟩ := LocalId.check_of_not_allowed hl
    exact ⟨reason, by rw [save, hcheck]⟩

/-- A workspace that takes the place of another one of the same local id, one with texts that have
to be escaped, one whose local id is not allowed, and one that is removed again. -/
theorem calls_answered_by_roster_namesakes :
    let d : WorkspaceFiles := ⟨⟨["", "fleet"]⟩⟩
    let t : FileTree := { entries := .ofList [(["fleet"], Entry.directory)] compare }
    let web : Workspace := { id := "prod-1001", name := "web", address := "10.0.0.1" }
    let namesake : Workspace := { id := "test-1001", name := "web", address := "10.0.0.2:2222" }
    let odd : Workspace :=
      { id := "\"\\π-2002", name := "böse\n🚇", address := "", status := .unknown }
    let slash : Workspace := { id := "a/b", name := "", address := "10.0.0.3" }
    let calls : List WorkspaceCall :=
      [.save odd, .save web, .save slash, .list, .save namesake, .load web.localId,
        .remove odd.localId, .remove odd.localId, .listScope .running]
    t.names d.directory = .ok [] ∧
      (serve d.perform calls t).1 = (serve (Roster.perform d) calls ∅).1 ∧
      (∃ ws, d.list (serve d.perform calls t).2 = (.ok ws, []) ∧ namesake ∈ ws ∧ web ∉ ws) ∧
      (d.perform (.remove web.localId) t).2 = t ∧
      (∃ reason, d.load slash.localId t = .error (.invalidName reason)) ∧
      ∃ reason, d.save slash t = (.error (.invalidName reason), t) := by
  intro d t web namesake odd slash calls
  have hempty : t.names d.directory = .ok [] := rfl
  have hslash : ¬slash.localId.NameAllowed := by decide +kernel
  obtain ⟨hmap, hlone⟩ := calls_answered_by_roster d
  obtain ⟨hanswers, ws, hlist, hroster, -⟩ := hmap t hempty calls
  obtain ⟨hfailed, hload, hsave⟩ := hlone t
  have hstored : (serve (Roster.perform d) calls ∅).2[web.localId]? = some namesake := by
    decide +kernel
  have hreplaced : (serve (Roster.perform d) calls ∅).2[web.localId]? ≠ some web := by
    decide +kernel
  refine ⟨hempty, hanswers, ⟨ws, hlist, ((hroster _ _).mp hstored).1, fun hweb => ?_⟩, ?_, ?_, ?_⟩
  · exact hreplaced ((hroster _ _).mpr ⟨hweb, rfl⟩)
  · exact hfailed (.remove web.localId) (by decide +kernel)
  · obtain ⟨reason, hloaded, -⟩ := hload slash.localId hslash
    exact ⟨reason, hloaded⟩
  · exact hsave slash hslash

end WorkspaceFiles

end TunnelFleet
