import TunnelFleet.Proofs.Supervision.AliasTunnels
import TunnelFleet.Proofs.Supervision.Ownership

/-!
# The course of a start

A start goes through its workspaces in order, and each one meets the state that those before
it have left. `Supervisor.meetings` lists these states. What a whole start does is told by the
sessions that it opens (`Gained`): the last of them for a local id is what the local id is left
with, and a local id that no session was opened for keeps its tunnel. One workspace opens one
session or none, and what two parts of a start open, the whole opens.
-/

namespace TunnelFleet

/-- The port that a tunnel was started on. -/
def StartOutcome.port? : StartOutcome → Option UInt16
  | .started p => some p
  | _ => none

/-- The last one of some sessions for a local id. -/
def Session.lastFor? (l : LocalId) (opened : List Session) : Option Session :=
  opened.reverse.find? fun x => x.localId == l

namespace Session

variable {l : LocalId} {x : Session} {xs ys : List Session}

theorem mem_of_lastFor? (h : lastFor? l xs = some x) : x ∈ xs ∧ x.localId = l :=
  ⟨List.mem_reverse.mp (List.mem_of_find?_eq_some h), by simpa using List.find?_some h⟩

theorem lastFor?_eq_none_iff : lastFor? l xs = none ↔ ∀ x ∈ xs, x.localId ≠ l := by
  simp [lastFor?]

/-- A later session for the local id comes before an earlier one. -/
theorem lastFor?_append : lastFor? l (xs ++ ys) = (lastFor? l ys).or (lastFor? l xs) := by
  rw [lastFor?, List.reverse_append, List.find?_append, lastFor?, lastFor?]

end Session

namespace Supervisor

variable {σ : Type} {setup : Setup σ} {s t u : Supervisor σ} {l : LocalId} {w : Workspace}
  {p : UInt16} {x : Session} {opened : List Session}

/-! ## Meetings -/

/-- The pinned ports of some workspaces are set aside. -/
def setAside (setup : Setup σ) (ws : List Workspace) (s : Supervisor σ) : Supervisor σ :=
  s.assign (s.assigner.reserve setup.ports s.store ws).1 s.store
    (s.assigner.reserve setup.ports s.store ws).2

/-- Workspaces that are started one by one, each with the state that it meets. -/
def meetings (setup : Setup σ) : List Workspace → Supervisor σ → List (Workspace × Supervisor σ)
  | [], _ => []
  | w :: ws, s => (w, s) :: meetings setup ws (s.startOne setup w).2

/-- The workspaces among those that meet some states whose tunnels are started there, with
their ports. -/
def successes (setup : Setup σ) (met : List (Workspace × Supervisor σ)) :
    List (Workspace × UInt16) :=
  met.filterMap fun x => (x.2.startOne setup x.1).1.port?.map (x.1, ·)

theorem map_fst_meetings (setup : Setup σ) (ws : List Workspace) (s : Supervisor σ) :
    (meetings setup ws s).map Prod.fst = ws := by
  induction ws generalizing s with
  | nil => rfl
  | cons w ws ih => rw [meetings, List.map_cons, ih]

/-! ## Sessions that are gained -/

/-- The registry has this session, and nobody has cancelled it. -/
def Shows (s : Supervisor σ) (x : Session) : Prop :=
  s.IsLive x ∧ ∃ h : Handle, s.registry.handles[x.localId]? = some h ∧ h.asSession = x

/-- On the way from one state to another a start opened these sessions. -/
structure Gained (setup : Setup σ) (opened : List Session) (s t : Supervisor σ) : Prop where
  sound : t.Sound
  stopping : t.isStopping = s.isStopping
  drawing : t.assigner.drawing = s.assigner.drawing
  sessions : t.sessions = s.sessions ++ opened
  /-- Nobody loses or wins retries; a budget that somebody got is a full one. -/
  retries : ∀ l, (t.registry.remaining? l).getD setup.retryBudget =
    (s.registry.remaining? l).getD setup.retryBudget
  shown : ∀ l x, Session.lastFor? l opened = some x → t.Shows x
  spared : ∀ l, Session.lastFor? l opened = none → Spares l s t

namespace Gained

/-- Whatever leaves the registry alone opens no session. -/
theorem of_registry (ht : t.Sound) (hregistry : t.registry = s.registry)
    (hdrawing : t.assigner.drawing = s.assigner.drawing) (hsessions : t.sessions = s.sessions) :
    Gained setup [] s t where
  sound := ht
  stopping := by rw [isStopping, isStopping, hregistry]
  drawing := hdrawing
  sessions := by rw [hsessions, List.append_nil]
  retries l := by rw [hregistry]
  shown l x hx := by cases hx
  spared l _ := .of_registry l hregistry

theorem refl (hs : s.Sound) : Gained setup [] s s := of_registry hs rfl rfl rfl

/-- A workspace gets a budget before its tunnel is started. -/
theorem ensureBudget (setup : Setup σ) (hs : s.Sound) (k : LocalId) :
    Gained setup [] s (s.ensureBudget k setup.retryBudget) where
  sound := hs.ensureBudget k setup.retryBudget
  stopping := congrArg Tokens.rootCancelled (s.registry.tokens_ensureBudget k setup.retryBudget)
  drawing := rfl
  sessions := (List.append_nil _).symm
  retries l := by
    have hremaining := s.registry.remaining?_ensureBudget k l setup.retryBudget
    refine (congrArg (Option.getD · setup.retryBudget) hremaining).trans ?_
    by_cases hl : l = k
    · rw [if_pos hl, hl, Option.getD_some]
    · rw [if_neg hl]
  shown l x hx := by cases hx
  spared l _ := hs.spares_ensureBudget l k setup.retryBudget

/-- A workspace that may hold its local id is registered with a new session. -/
theorem enroll (setup : Setup σ) (hs : s.Sound) (hrunning : s.isStopping = false)
    (hbudget : w.localId ∈ s.registry.budgets) (hport : w.localId ∈ s.assigner.issued)
    (p : UInt16) : Gained setup [⟨s.registry.lastSession + 1, w, p⟩] s (s.enroll w p) where
  sound := hs.enroll hbudget hport
  stopping := s.registry.rootCancelled_install _
  drawing := rfl
  sessions := rfl
  retries l := rfl
  shown l x hx := by
    obtain ⟨hmem, -⟩ := Session.mem_of_lastFor? hx
    obtain rfl := List.mem_singleton.mp hmem
    exact ⟨hs.isCancelled_enroll_new hrunning w p, _,
      (Registry.handles_install _ _ _).trans (if_pos rfl), rfl⟩
  spared l hl := by
    have hne := Session.lastFor?_eq_none_iff.mp hl _ (List.mem_singleton.mpr rfl)
    exact hs.spares_enroll (Ne.symm hne) p

/-- What one part of a start opens and what the next part opens. A session of the first part is
shown in the end, unless the next part opens one for the same local id. -/
theorem append {xs ys : List Session} (hfirst : Gained setup xs s u)
    (hnext : Gained setup ys u t) : Gained setup (xs ++ ys) s t where
  sound := hnext.sound
  stopping := hnext.stopping.trans hfirst.stopping
  drawing := hnext.drawing.trans hfirst.drawing
  sessions := by rw [hnext.sessions, hfirst.sessions, List.append_assoc]
  retries l := (hnext.retries l).trans (hfirst.retries l)
  shown l x hx := by
    rw [Session.lastFor?_append, Option.or_eq_some_iff] at hx
    rcases hx with hlater | ⟨hnone, hearlier⟩
    · exact hnext.shown l x hlater
    · obtain ⟨-, rfl⟩ := Session.mem_of_lastFor? hearlier
      obtain ⟨hlive, h, hl, hsession⟩ := hfirst.shown _ x hearlier
      have hspared := hnext.spared _ hnone
      have hnumber : h.session = x.number := congrArg Session.number hsession
      refine ⟨?_, h, hspared.handle.trans hl, hsession⟩
      rw [IsLive, ← hnumber, hspared.token h hl, hnumber]
      exact hlive
  spared l hl := by
    rw [Session.lastFor?_append, Option.or_eq_none_iff] at hl
    exact (hfirst.spared l hl.2).trans (hnext.spared l hl.1)

/-- The registered local ids are the old ones and those of the new sessions. -/
theorem mem_handles_iff (h : Gained setup opened s t) :
    l ∈ t.registry.handles ↔ l ∈ s.registry.handles ∨ ∃ x ∈ opened, x.localId = l := by
  cases hlast : Session.lastFor? l opened with
  | none =>
    have hnone := Session.lastFor?_eq_none_iff.mp hlast
    rw [(h.spared l hlast).mem_handles]
    refine ⟨.inl, ?_⟩
    rintro (hold | ⟨x, hx, hxl⟩)
    · exact hold
    · exact absurd hxl (hnone x hx)
  | some x =>
    obtain ⟨hmem, rfl⟩ := Session.mem_of_lastFor? hlast
    obtain ⟨-, k, hk, -⟩ := h.shown _ x hlast
    exact ⟨fun _ => .inr ⟨x, hmem, rfl⟩, fun _ => Registry.mem_handles_iff.mpr ⟨k, hk⟩⟩

/-- The row of a local id shows the last session that was opened for it, and the retries that
were left before, or a full budget. -/
theorem mem_status (h : Gained setup opened s t) (hlast : Session.lastFor? l opened = some x) :
    { localId := l, port := x.port, isOpen := true, session := x.number
      remaining := (s.registry.remaining? l).getD setup.retryBudget } ∈ t.registry.status := by
  obtain ⟨-, rfl⟩ := Session.mem_of_lastFor? hlast
  obtain ⟨hlive, k, hk, rfl⟩ := h.shown _ x hlast
  obtain ⟨r, hr⟩ := h.sound.remaining_of_registered hk
  have hcancelled : t.registry.tokens.isCancelled k.session = false := hlive
  have hretries := h.retries k.asSession.localId
  rw [hr, Option.getD_some] at hretries
  refine Registry.mem_status.mpr ⟨_, k, hk, ?_⟩
  rw [h.sound.statusOf_eq hk, hcancelled, hr, ← hretries]
  rfl

/-- A local id that no session was opened for has the row that it had. -/
theorem mem_status_iff (h : Gained setup opened s t) (hs : s.Sound) {row : TunnelStatus}
    (hlast : Session.lastFor? row.localId opened = none) :
    row ∈ t.registry.status ↔ row ∈ s.registry.status := by
  have hspared := h.spared _ hlast
  refine ⟨hspared.mem_status hs h.sound, fun hrow => ?_⟩
  obtain ⟨l, k, hk, rfl⟩ := Registry.mem_status.mp hrow
  exact Registry.mem_status.mpr
    ⟨l, k, hspared.handle.trans hk, hspared.statusOf_eq hs h.sound hk⟩

end Gained

/-! ## One workspace -/

/-- A running supervisor that can draw ports starts the tunnel of a workspace if a port is found
for it and the workspace may hold its local id. Otherwise it says why not, and has opened
nothing. -/
theorem Sound.startOne_gained (setup : Setup σ) (hs : s.Sound) (hrunning : s.isStopping = false)
    (hrange : s.assigner.drawing.range.size ≠ 0) (w : Workspace) :
    let r := s.assigner.resolve setup.ports setup.sampler w.localId s.store
    ∃ opened, Gained setup opened s (s.startOne setup w).2 ∧
      ((∃ p, r.result = .port p ∧ s.registry.Admits w ∧ (s.startOne setup w).1 = .started p ∧
          opened = [⟨s.registry.lastSession + 1, w, p⟩]) ∨
        ((∀ p, r.result = .port p → ¬ s.registry.Admits w) ∧
          (∃ e, (s.startOne setup w).1 = .refused e) ∧ opened = [])) := by
  intro r
  let m := s.ensureBudget w.localId setup.retryBudget
  let n := m.assign r.assigner r.store r.logs
  have hm : Gained setup [] s m := .ensureBudget setup hs w.localId
  have hmrunning : m.isStopping = false := hm.stopping.trans hrunning
  have hhandles : m.registry.handles = s.registry.handles :=
    s.registry.handles_ensureBudget w.localId setup.retryBudget
  have hnsound : n.Sound := hm.sound.assign fun l hl => Assigner.mem_issued_resolve hl
  have hdrawing : n.assigner.drawing = m.assigner.drawing :=
    Assigner.drawing_resolve setup.ports setup.sampler w.localId s.assigner s.store
  have hn : Gained setup [] s n := hm.append (.of_registry hnsound rfl hdrawing rfl)
  unfold startOne
  obtain ⟨p, hresult, hstart⟩ | ⟨e, hresult, hstart⟩ | ⟨hresult, -⟩ :=
    startTunnel_of_running setup w hmrunning
  · have hlaunched : m.startTunnel setup w = n.launch w p := hstart
    obtain ⟨current, hcurrent, hid, hlaunch⟩ | ⟨hadmits, hlaunch⟩ := launch_cases w p n
    · -- The port is found, but the local id belongs to another workspace.
      rw [hlaunched, hlaunch]
      refine ⟨[], hn.append (.of_registry (hnsound.note _) rfl rfl rfl),
        .inr ⟨fun q _ hadmits => ?_, ⟨_, rfl⟩, rfl⟩⟩
      exact hid (hadmits current (hhandles ▸ hcurrent))
    · have hbudget : w.localId ∈ n.registry.budgets :=
        Registry.mem_budgets_ensureBudget.mpr (.inl rfl)
      have hport : w.localId ∈ n.assigner.issued := Assigner.mem_issued_resolve_self hresult
      have hlast : n.registry.lastSession = s.registry.lastSession :=
        s.registry.lastSession_ensureBudget w.localId setup.retryBudget
      have henroll := Gained.enroll setup hnsound (hn.stopping.trans hrunning) hbudget hport p
      have hcounted : Gained setup [] (n.enroll w p) ((n.enroll w p).record [.counted w]) :=
        .of_registry (henroll.sound.record _) rfl rfl rfl
      rw [hlaunched, hlaunch, ← hlast]
      exact ⟨_, (hn.append henroll).append hcounted,
        .inl ⟨p, hresult, fun h hh => hadmits h (hhandles.symm ▸ hh), rfl, rfl⟩⟩
  · rw [hstart]
    refine ⟨[], hn.append (.of_registry (hnsound.note _) rfl rfl rfl),
      .inr ⟨fun q hport _ => ?_, ⟨_, rfl⟩, rfl⟩⟩
    cases hport.symm.trans hresult
  · have hmrange : m.assigner.drawing.range.size ≠ 0 := hrange
    exact absurd hresult (Assigner.result_ne_aborted hmrange _ _ _ _)

/-- A running supervisor that can draw ports starts the tunnel of a workspace on a port if and
only if this is the port that is found for it and the workspace may hold its local id. -/
theorem Sound.startOne_eq_started_iff (setup : Setup σ) (hs : s.Sound)
    (hrunning : s.isStopping = false) (hrange : s.assigner.drawing.range.size ≠ 0)
    (w : Workspace) (p : UInt16) :
    (s.startOne setup w).1 = .started p ↔
      (s.assigner.resolve setup.ports setup.sampler w.localId s.store).result = .port p ∧
        s.registry.Admits w := by
  obtain ⟨-, -, ⟨q, hq, hadmits, hstart, -⟩ | ⟨hfails, ⟨e, hstart⟩, -⟩⟩ :=
    hs.startOne_gained setup hrunning hrange w
  · rw [hstart, hq]
    exact ⟨fun h => ⟨congrArg _ (StartOutcome.started.inj h), hadmits⟩,
      fun h => congrArg _ (Resolution.port.inj h.1)⟩
  · rw [hstart]
    exact ⟨fun h => absurd h (by simp), fun h => absurd h.2 (hfails p h.1)⟩

/-! ## All workspaces -/

/-- Starting workspaces one by one goes through all of them: each starts from what the one
before it left, and the sessions that are opened are those of the successes, in order. -/
theorem Sound.startEach_gained (setup : Setup σ) (hs : s.Sound) (hrunning : s.isStopping = false)
    (hrange : s.assigner.drawing.range.size ≠ 0) (ws : List Workspace) :
    (s.startEach setup ws).2 = ws.foldl (fun m w => (m.startOne setup w).2) s ∧
      ∃ opened : List Session, (s.startEach setup ws).1 = some opened.length ∧
        opened.map (fun x => (x.workspace, x.port)) = successes setup (s.meetings setup ws) ∧
        Gained setup opened s (s.startEach setup ws).2 := by
  induction ws generalizing s with
  | nil => exact ⟨rfl, [], rfl, rfl, .refl hs⟩
  | cons w ws ih =>
    obtain ⟨first, hone, hcases⟩ := hs.startOne_gained setup hrunning hrange w
    obtain ⟨hfold, rest, hcount, hopened, hgained⟩ :=
      ih hone.sound (hone.stopping.trans hrunning) (hone.drawing ▸ hrange)
    unfold startEach meetings successes
    rw [List.filterMap_cons, List.foldl_cons]
    cases hstart : s.startOne setup w with
    | mk o u =>
      rw [hstart] at hone hcases hfold hcount hopened hgained
      obtain ⟨p, -, -, rfl, rfl⟩ | ⟨-, ⟨e, rfl⟩, rfl⟩ := hcases
      · refine ⟨hfold, _ :: rest, ?_, ?_, hone.append hgained⟩
        · simp only [hcount, Option.map_some, List.length_cons]
        · rw [List.map_cons, hopened]
          rfl
      · exact ⟨hfold, rest, hcount, hopened, hone.append hgained⟩

/-- Each state that a workspace meets is a running one in which ports can be drawn. -/
theorem Sound.of_mem_meetings (setup : Setup σ) (hs : s.Sound) (hrunning : s.isStopping = false)
    (hrange : s.assigner.drawing.range.size ≠ 0) {ws : List Workspace}
    {x : Workspace × Supervisor σ} (hx : x ∈ s.meetings setup ws) :
    x.2.Sound ∧ x.2.isStopping = false ∧ x.2.assigner.drawing.range.size ≠ 0 := by
  induction ws generalizing s with
  | nil => cases hx
  | cons w ws ih =>
    rcases List.mem_cons.mp hx with rfl | hx
    · exact ⟨hs, hrunning, hrange⟩
    · obtain ⟨opened, hone, -⟩ := hs.startOne_gained setup hrunning hrange w
      exact ih hone.sound (hone.stopping.trans hrunning) (hone.drawing ▸ hrange) hx

/-- Workspaces with distinct local ids that nobody holds may each hold theirs when their turn
comes. -/
theorem Sound.admits_of_mem_meetings (setup : Setup σ) (hs : s.Sound)
    (hrunning : s.isStopping = false) (hrange : s.assigner.drawing.range.size ≠ 0)
    {ws : List Workspace} (hfree : ∀ w ∈ ws, w.localId ∉ s.registry.handles)
    (hdistinct : (ws.map (·.localId)).Nodup) {x : Workspace × Supervisor σ}
    (hx : x ∈ s.meetings setup ws) : x.2.registry.Admits x.1 := by
  induction ws generalizing s with
  | nil => cases hx
  | cons w ws ih =>
    rcases List.mem_cons.mp hx with rfl | hx
    · intro h hl
      exact absurd (Registry.mem_handles_iff.mpr ⟨h, hl⟩) (hfree w List.mem_cons_self)
    · obtain ⟨hfirst, hrest⟩ := List.nodup_cons.mp hdistinct
      obtain ⟨opened, hone, hcases⟩ := hs.startOne_gained setup hrunning hrange w
      have hlocal : ∀ x ∈ opened, x.localId = w.localId := by
        obtain ⟨p, -, -, -, rfl⟩ | ⟨-, -, rfl⟩ := hcases
        · simp [Session.localId]
        · simp
      refine ih hone.sound (hone.stopping.trans hrunning) (hone.drawing ▸ hrange) ?_ hrest hx
      intro k hk hmem
      rcases hone.mem_handles_iff.mp hmem with hold | ⟨x, hx, hxk⟩
      · exact hfree k (List.mem_cons_of_mem _ hk) hold
      · refine hfirst (List.mem_map.mpr ⟨k, hk, ?_⟩)
        rw [← hxk, hlocal x hx]

/-- A start is the starts of its workspaces, one by one, after the pinned ports of all of them
were set aside. -/
theorem start_eq_startEach (setup : Setup σ) (ws : List Workspace) (s : Supervisor σ) :
    s.start setup ws = (s.setAside setup ws).startEach setup ws := by
  unfold start
  split
  · next hempty =>
    obtain rfl := List.isEmpty_iff.mp hempty
    simp [startEach, setAside, Assigner.reserve, assign, note]
  · rfl

/-- Setting ports aside opens nothing. -/
theorem Sound.setAside_gained (setup : Setup σ) (hs : s.Sound) (ws : List Workspace) :
    Gained setup [] s (s.setAside setup ws) :=
  .of_registry (hs.assign fun _ hl => Assigner.mem_issued_reserve hl) rfl
    (Assigner.drawing_reserve setup.ports s.store s.assigner ws) rfl

/-- If every workspace gets a session and no two have the same local id, then there is one row
for each of them, and all are open. -/
theorem Gained.all_open (h : Gained setup opened s t) (hnobody : ∀ l, l ∉ s.registry.handles)
    (hdistinct : (opened.map (·.localId)).Nodup) :
    t.registry.status.length = opened.length ∧ ∀ row ∈ t.registry.status, row.isOpen = true := by
  have hmem : ∀ l, l ∈ t.registry.handles ↔ ∃ x ∈ opened, x.localId = l := fun l =>
    h.mem_handles_iff.trans (or_iff_right (hnobody l))
  constructor
  · have hrows : (t.registry.status.map (·.localId)).Nodup := by
      refine List.pairwise_map.mpr (t.registry.pairwise_status.imp fun hlt heq => ?_)
      rw [(LocalId.compare_eq_iff _ _).mpr heq] at hlt
      cases hlt
    have hperm : (t.registry.status.map (·.localId)).Perm (opened.map (·.localId)) := by
      refine (List.perm_ext_iff_of_nodup hrows hdistinct).mpr fun l => ?_
      rw [Registry.map_localId_status, List.mem_map, List.mem_map, ← hmem,
        Registry.mem_handles_iff]
      simp [Std.ExtTreeMap.mem_toList_iff_getElem?_eq_some]
    simpa using hperm.length_eq
  · intro row hrow
    obtain ⟨l, k, hk, rfl⟩ := Registry.mem_status.mp hrow
    obtain ⟨x, hx, hxl⟩ := (hmem l).mp (Registry.mem_handles_iff.mpr ⟨k, hk⟩)
    have hlast : Session.lastFor? l opened ≠ none := fun hnone =>
      Session.lastFor?_eq_none_iff.mp hnone x hx hxl
    obtain ⟨y, hy⟩ := Option.ne_none_iff_exists'.mp hlast
    obtain ⟨hlive, k', hk', rfl⟩ := h.shown l y hy
    obtain rfl : k'.asSession.localId = l := (Session.mem_of_lastFor? hy).2
    obtain rfl : k = k' := Option.some.inj (hk.symm.trans hk')
    have hcancelled : t.registry.tokens.isCancelled k.session = false := hlive
    rw [h.sound.statusOf_eq hk, hcancelled, Bool.not_false]

/-- If all workspaces succeed, then the successes are all workspaces. -/
theorem map_fst_successes {met : List (Workspace × Supervisor σ)}
    (h : ∀ x ∈ met, ∃ p, (x.2.startOne setup x.1).1 = .started p) :
    (successes setup met).map Prod.fst = met.map Prod.fst := by
  induction met with
  | nil => rfl
  | cons x met ih =>
    obtain ⟨p, hp⟩ := h x List.mem_cons_self
    have hrest := ih fun y hy => h y (List.mem_cons_of_mem _ hy)
    rw [successes] at hrest
    rw [successes, List.filterMap_cons, hp, List.map_cons, ← hrest]
    rfl

/-- A start is a fold in which failures are isolated. A running supervisor that can draw ports
goes through the workspaces in order, whatever they are and whatever the store does. Each one
meets the state that those before it left, and its tunnel is started if and only if a port is
found for it there and its local id is free or its own. The start answers how many were started;
these get the next session numbers in their order and nobody else gets a session. Afterwards
their local ids are registered besides the old ones, the row of each shows the last session that
was opened for it, and all other local ids have the row and the token that they had. So
workspaces with distinct local ids whose ports are found have one row each, all open, if nobody
was registered before. -/
theorem Reachable.start_isolates_failures (hs : Reachable setup s)
    (hrunning : s.isStopping = false) (hrange : s.assigner.drawing.range.size ≠ 0)
    (ws : List Workspace) :
    let t := (s.start setup ws).2
    let met := (s.setAside setup ws).meetings setup ws
    let found := fun x : Workspace × Supervisor σ =>
      (x.2.assigner.resolve setup.ports setup.sampler x.1.localId x.2.store).result
    met.map Prod.fst = ws ∧
    t = ws.foldl (fun m w => (m.startOne setup w).2) (s.setAside setup ws) ∧
    (∀ x ∈ met, ∀ p, (x.2.startOne setup x.1).1 = .started p ↔
      found x = .port p ∧ x.2.registry.Admits x.1) ∧
    ∃ opened : List Session,
      (s.start setup ws).1 = some opened.length ∧
      opened.map (fun x => (x.workspace, x.port)) = successes setup met ∧
      t.sessions = s.sessions ++ opened ∧
      opened.map Session.number = List.range' (s.registry.lastSession + 1) opened.length ∧
      (∀ l, l ∈ t.registry.handles ↔ l ∈ s.registry.handles ∨ ∃ x ∈ opened, x.localId = l) ∧
      (∀ l x, Session.lastFor? l opened = some x →
        (∃ h : Handle, t.registry.handles[l]? = some h ∧ h.asSession = x) ∧
        { localId := l, port := x.port, isOpen := true, session := x.number
          remaining := (s.registry.remaining? l).getD setup.retryBudget } ∈ t.registry.status) ∧
      (∀ l, Session.lastFor? l opened = none →
        (∀ row : TunnelStatus, row.localId = l →
          (row ∈ t.registry.status ↔ row ∈ s.registry.status)) ∧
        ∀ h : Handle, s.registry.handles[l]? = some h → t.registry.handles[l]? = some h ∧
          t.registry.tokens.isCancelled h.token = s.registry.tokens.isCancelled h.token) ∧
      ((∀ l, l ∉ s.registry.handles) → (ws.map (·.localId)).Nodup →
        (∀ x ∈ met, ∃ p, found x = .port p) →
          t.registry.status.length = ws.length ∧ ∀ row ∈ t.registry.status, row.isOpen = true) := by
  intro t met found
  have hsound := hs.sound
  have hready : Gained setup [] s (s.setAside setup ws) := hsound.setAside_gained setup ws
  have hrunning' := hready.stopping.trans hrunning
  have hrange' : (s.setAside setup ws).assigner.drawing.range.size ≠ 0 := hready.drawing ▸ hrange
  obtain ⟨hfold, opened, hcount, hopened, hgained⟩ :=
    hready.sound.startEach_gained setup hrunning' hrange' ws
  rw [← start_eq_startEach] at hfold hcount hgained
  have hgained : Gained setup opened s t := hready.append hgained
  obtain ⟨hnumbers, -⟩ := hsound.numbers_opened hgained.sound hgained.sessions
  have hstarted : ∀ x ∈ met, ∀ p, (x.2.startOne setup x.1).1 = .started p ↔
      found x = .port p ∧ x.2.registry.Admits x.1 := fun x hx p => by
    obtain ⟨hx, hxrunning, hxrange⟩ := hready.sound.of_mem_meetings setup hrunning' hrange' hx
    exact hx.startOne_eq_started_iff setup hxrunning hxrange x.1 p
  refine ⟨map_fst_meetings setup ws _, hfold, hstarted, opened, hcount, hopened,
    hgained.sessions, hnumbers, fun l => hgained.mem_handles_iff, fun l x hlast => ?_,
    fun l hlast => ⟨?_, fun h hl => ?_⟩, fun hnobody hdistinct hfound => ?_⟩
  · obtain ⟨-, rfl⟩ := Session.mem_of_lastFor? hlast
    exact ⟨(hgained.shown _ x hlast).2, hgained.mem_status hlast⟩
  · rintro row rfl
    exact hgained.mem_status_iff hsound hlast
  · have hspared := hgained.spared l hlast
    obtain ⟨-, htoken, -⟩ := hsound.tracks.stands hl
    rw [htoken]
    exact ⟨hspared.handle.trans hl, hspared.token h hl⟩
  · have hall : ∀ x ∈ met, ∃ p, (x.2.startOne setup x.1).1 = .started p := fun x hx => by
      obtain ⟨p, hp⟩ := hfound x hx
      exact ⟨p, (hstarted x hx p).mpr ⟨hp, hready.sound.admits_of_mem_meetings setup hrunning'
        hrange' (fun w _ => hnobody w.localId) hdistinct hx⟩⟩
    have hworkspaces : opened.map Session.workspace = ws := by
      have hfst := congrArg (List.map Prod.fst) hopened
      rwa [map_fst_successes hall, map_fst_meetings, List.map_map] at hfst
    have hlocal : opened.map (·.localId) = ws.map (·.localId) := by
      rw [← hworkspaces, List.map_map]
      rfl
    obtain ⟨hrows, hopen⟩ := hgained.all_open hnobody (hlocal ▸ hdistinct)
    refine ⟨hrows.trans ?_, hopen⟩
    rw [← hworkspaces, List.length_map]

/-- A workspace is started twice, beside one that collides with it and one whose port cannot be
looked up. -/
theorem start_isolates_failures_mixed :
    let web := SmallFleet.web.localId
    let s : Supervisor PinTable :=
      { store := { lookupFaults := .ofList [(SmallFleet.db.localId, "locked")] }
        assigner := { drawing := { maxAttempts := 8 } } }
    let ws := [SmallFleet.web, SmallFleet.impostor, SmallFleet.db, SmallFleet.web]
    let t := (s.start SmallFleet.setup ws).2
    Reachable SmallFleet.setup s ∧ s.isStopping = false ∧ s.assigner.drawing.range.size ≠ 0 ∧
      (s.start SmallFleet.setup ws).1 = some 2 ∧ SmallFleet.db.localId ∉ t.registry.handles ∧
      { localId := web, port := 1024, isOpen := true, session := 2, remaining := 3 } ∈
        t.registry.status := by
  intro web s ws t
  have hreachable : Reachable SmallFleet.setup s := .fresh ⟨_, _, rfl⟩
  have hrunning : s.isStopping = false := rfl
  have hrange : s.assigner.drawing.range.size ≠ 0 := by decide
  obtain ⟨-, -, -, opened, hcount, hopened, -, hnumbers, hhandles, hrows, -⟩ :=
    Reachable.start_isolates_failures hreachable hrunning hrange ws
  have hsuccesses : successes SmallFleet.setup
      ((s.setAside SmallFleet.setup ws).meetings SmallFleet.setup ws) =
        [(SmallFleet.web, 1024), (SmallFleet.web, 1024)] := by
    decide +kernel
  rw [hsuccesses] at hopened
  have hlength : opened.length = 2 := by simpa using congrArg List.length hopened
  rw [hlength] at hnumbers
  obtain ⟨⟨m, v, p⟩, ⟨n, w, q⟩, rfl⟩ := List.length_eq_two.mp hlength
  simp only [List.map_cons, List.map_nil, List.cons.injEq, Prod.mk.injEq, and_true] at hopened
  obtain ⟨⟨rfl, rfl⟩, rfl, rfl⟩ := hopened
  obtain ⟨rfl, rfl⟩ : m = 1 ∧ n = 2 := by simpa [s, List.range'] using hnumbers
  have hlast : Session.lastFor? web [⟨1, SmallFleet.web, 1024⟩, ⟨2, SmallFleet.web, 1024⟩] =
      some ⟨2, SmallFleet.web, 1024⟩ := by
    decide +kernel
  have hother : SmallFleet.web.localId ≠ SmallFleet.db.localId := by decide
  have hunregistered : SmallFleet.db.localId ∉ t.registry.handles := by
    rw [hhandles]
    rintro (hold | ⟨x, hx, hlocal⟩)
    · simp [s] at hold
    · simp only [List.mem_cons, List.not_mem_nil, or_false] at hx
      rcases hx with rfl | rfl
      · exact hother hlocal
      · exact hother hlocal
  exact ⟨hreachable, hrunning, hrange, hcount, hunregistered, (hrows web _ hlast).2⟩

end Supervisor

end TunnelFleet
