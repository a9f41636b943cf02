import TunnelFleet.Proofs.Supervision.Bookkeeping
import TunnelFleet.Supervision.Drain

/-!
# A shutdown is complete and final

A shutdown cancels the root of all tokens and only then closes the handles one by one, so
what it counts are the handles that nobody closed before. As long as the root is not
cancelled, these are the open ones: a token is cancelled by its own handle or not at all.
After a shutdown nothing can be started any more, whatever is asked of the supervisor.
-/

namespace TunnelFleet

namespace Registry

variable {r r' : Registry} {sessions : List Session} {l k : LocalId}

/-! ## Who cancelled a token -/

/-- As long as the root is not cancelled, only a closed handle has a cancelled token. -/
def CancelledByHandle (r : Registry) : Prop :=
  r.tokens.rootCancelled = false → ∀ {l : LocalId} {h : Handle}, r.handles[l]? = some h →
    r.tokens.isCancelled h.token = true → h.closed = true

namespace CancelledByHandle

/-- Who cancelled a token does not depend on the budgets. -/
theorem congr (hr : r.CancelledByHandle) (hhandles : r'.handles = r.handles)
    (htokens : r'.tokens = r.tokens) : r'.CancelledByHandle := by
  intro hroot l h hl hcancelled
  rw [hhandles] at hl
  rw [htokens] at hroot hcancelled
  exact hr hroot hl hcancelled

/-- Releasing the handle of one local id cancels no token of another. -/
private theorem closed_of_released (hr : r.CancelledByHandle) (ht : r.Tracks sessions)
    (hroot : r.tokens.rootCancelled = false) {h : Handle} (hk : r.handles[k]? = some h)
    (hne : k ≠ l)
    (hcancelled : (r.tokens.isCancelled h.token ||
      r.handles[l]?.any fun h' => !h'.closed && h.token == h'.token) = true) :
    h.closed = true := by
  rcases Bool.or_eq_true_iff.mp hcancelled with hbefore | hreleased
  · exact hr hroot hk hbefore
  · obtain ⟨released, hl, htoken⟩ := (Option.any_eq_true _ _).mp hreleased
    have hsession := ht.session_ne hl hk hne
    obtain ⟨-, htokenk, -⟩ := ht.stands hk
    obtain ⟨-, htokenl, -⟩ := ht.stands hl
    simp [htokenk, htokenl, hsession] at htoken

theorem closeHandle (hr : r.CancelledByHandle) (ht : r.Tracks sessions) (l : LocalId) :
    (r.closeHandle l).2.CancelledByHandle := by
  intro hroot k h hk hcancelled
  rw [rootCancelled_closeHandle] at hroot
  rw [handles_closeHandle] at hk
  rw [isCancelled_closeHandle] at hcancelled
  split at hk
  · obtain ⟨before, -, rfl⟩ := Option.map_eq_some_iff.mp hk
    rfl
  · next hne => exact hr.closed_of_released ht hroot hk hne hcancelled

theorem reset (hr : r.CancelledByHandle) (ht : r.Tracks sessions) (l : LocalId) :
    (r.reset l).2.CancelledByHandle := by
  obtain ⟨budgets, hspend⟩ := (r.closeHandle l).2.spend_eq l
  refine (hr.closeHandle ht l).congr ?_ ?_
  all_goals rw [Registry.reset, hspend]

theorem closeAll (r : Registry) : r.closeAll.2.CancelledByHandle := by
  intro hroot k h hk hcancelled
  rw [handles_closeAll] at hk
  obtain ⟨before, -, rfl⟩ := Option.map_eq_some_iff.mp hk
  rfl

theorem install (hr : r.CancelledByHandle) (ht : r.Tracks sessions) (w : Workspace)
    (p : UInt16) :
    (r.install { workspace := w, port := p, token := r.lastSession + 1 }).2.CancelledByHandle := by
  intro hroot k h hk hcancelled
  rw [rootCancelled_install] at hroot
  rw [handles_install] at hk
  rw [isCancelled_install] at hcancelled
  split at hk
  · -- The token of the new handle is a new one, and nobody can have cancelled it.
    obtain rfl := Option.some.inj hk
    rw [ht.unused (Nat.lt_succ_self _), hroot, Bool.false_or] at hcancelled
    obtain ⟨previous, hl, htoken⟩ := (Option.any_eq_true _ _).mp hcancelled
    have hle := ht.token_le hl
    have hne : r.lastSession + 1 ≠ previous.token := by omega
    simp [hne] at htoken
  · next hne => exact hr.closed_of_released ht hroot hk hne hcancelled

/-- As long as the root is not cancelled, the handles that are not closed are the open ones. -/
theorem countP_open (hr : r.CancelledByHandle) (hroot : r.tokens.rootCancelled = false) :
    r.status.countP (·.isOpen) = r.currentHandles.countP (!·.closed) := by
  rw [status, currentHandles, List.countP_map, List.countP_map]
  refine List.countP_congr fun x hx => ?_
  obtain ⟨l, h⟩ := x
  have hl := Std.ExtTreeMap.mem_toList_iff_getElem?_eq_some.mp hx
  have hclosed : h.isClosed r.tokens = h.closed := by
    unfold Handle.isClosed
    cases hcancelled : r.tokens.isCancelled h.token with
    | false => rw [Bool.or_false]
    | true => rw [hr hroot hl hcancelled, Bool.or_true]
  simp [statusOf, hclosed]

end CancelledByHandle

/-! ## What is left after a shutdown -/

/-- Every handle was closed. -/
def AllShut (r : Registry) : Prop :=
  ∀ (l : LocalId) (h : Handle), r.handles[l]? = some h → h.closed = true

/-- There is nothing left to close. -/
theorem AllShut.closeAll_eq_zero (hr : r.AllShut) : r.closeAll.1 = 0 := by
  refine List.length_eq_zero_iff.mpr (List.filter_eq_nil_iff.mpr fun h hmem => ?_)
  obtain ⟨l, hl⟩ := mem_currentHandles.mp hmem
  simp [hr l h hl]

/-- Shutting handles leaves none open that was shut. -/
theorem AllShut.of_map (hr : r.AllShut)
    (hhandles : ∀ l : LocalId, r'.handles[l]? = r.handles[l]? ∨
      r'.handles[l]? = r.handles[l]?.map Handle.shut) : r'.AllShut := by
  intro l h hl
  rcases hhandles l with hsame | hshut
  · exact hr l h (hsame ▸ hl)
  · rw [hshut] at hl
    obtain ⟨before, -, rfl⟩ := Option.map_eq_some_iff.mp hl
    rfl

/-- Once the root is cancelled and all handles are closed, the rows are what they were,
only closed. -/
theorem status_shutdown (r : Registry) :
    { r with tokens := r.tokens.cancelRoot }.closeAll.2.status =
      r.status.map fun row => { row with isOpen := false } := by
  simp only [status, closeAll, Std.ExtTreeMap.toList_map, List.map_map]
  refine List.map_congr_left fun x _ => ?_
  simp [statusOf, Handle.isClosed, Handle.shut, remaining?]

end Registry

namespace Supervisor

variable {σ : Type} {setup : Setup σ} {s t : Supervisor σ}

private theorem cancelledByHandle_of_deed (hs : s.Sound) (hr : s.registry.CancelledByHandle)
    (h : Deed s t) : t.registry.CancelledByHandle := by
  cases h with
  | assign assigner store lines => exact hr
  | note lines => exact hr
  | probe ws => exact hr
  | budget l n =>
    exact hr.congr (s.registry.handles_ensureBudget l n) (s.registry.tokens_ensureBudget l n)
  | reset l => exact hr.reset hs.tracks l
  | start w p => exact hr.install hs.tracks w p
  | restart w p n assigner store lines =>
    exact (hr.reset hs.tracks w.localId).install (hs.tracks.reset w.localId) w p

/-- Until a shutdown, only a closed handle has a cancelled token. -/
theorem Reachable.cancelledByHandle (hs : Reachable setup s) :
    s.registry.CancelledByHandle := by
  suffices hboth : s.Sound ∧ s.registry.CancelledByHandle from hboth.2
  refine hs.of_moves (P := fun s => s.Sound ∧ s.registry.CancelledByHandle) ?_ ?_
  · intro s hfresh
    obtain ⟨store, assigner, rfl⟩ := hfresh
    exact ⟨.of_fresh ⟨store, assigner, rfl⟩, fun _ _ _ hl => by simp at hl⟩
  · rintro s t hmove ⟨hsound, hr⟩
    refine ⟨hsound.of_move hmove, ?_⟩
    cases hmove with
    | deed h => exact cancelledByHandle_of_deed hsound hr h
    | loop mailbox healthLoop entries lines => exact hr
    | leave session => exact hr
    | close l => exact hr.closeHandle hsound.tracks l
    | closeAll => exact .closeAll s.registry
    | cancelRoot => exact fun hroot => by cases hroot
    | store store => exact hr

/-! ## Life after a shutdown -/

/-- What a stopping supervisor still does: nothing that is about sessions, and nothing that
opens a closed handle. -/
structure Halted (s t : Supervisor σ) : Prop where
  sessions : t.sessions = s.sessions
  lastSession : t.registry.lastSession = s.registry.lastSession
  shut : s.registry.AllShut → t.registry.AllShut

private theorem Deed.halted (h : Deed s t) (hstop : s.isStopping = true) :
    Halted s t ∧ t.tasks = s.tasks := by
  cases h with
  | assign assigner store lines => exact ⟨⟨rfl, rfl, fun h => h⟩, rfl⟩
  | note lines => exact ⟨⟨rfl, rfl, fun h => h⟩, rfl⟩
  | probe ws => exact ⟨⟨rfl, rfl, fun h => h⟩, rfl⟩
  | budget l n =>
    refine ⟨⟨rfl, s.registry.lastSession_ensureBudget l n, fun h => h.of_map fun k => .inl ?_⟩, rfl⟩
    exact congrArg (fun m => m[k]?) (s.registry.handles_ensureBudget l n)
  | reset l =>
    exact ⟨⟨rfl, s.registry.lastSession_reset l,
      fun h => h.of_map fun k => s.registry.kept_or_shut_reset l k⟩, rfl⟩
  | start w p hrunning => rw [hstop] at hrunning; cases hrunning
  | restart w p n assigner store lines hrunning => rw [hstop] at hrunning; cases hrunning

/-- A stopping supervisor goes on without new sessions. -/
theorem Moves.halted (h : Moves s t) (hstop : s.isStopping = true) : Halted s t := by
  induction h with
  | refl => exact ⟨rfl, rfl, fun h => h⟩
  | tail hmoves hmove ih =>
    have hstill := Moves.isStopping hmoves hstop
    obtain ⟨hsessions, hlast, hshut⟩ := ih
    refine ⟨?_, ?_, fun h => ?_⟩
    · rw [← hsessions]
      cases hmove with
      | deed h => exact (h.halted hstill).1.sessions
      | _ => rfl
    · rw [← hlast]
      cases hmove with
      | deed h => exact (h.halted hstill).1.lastSession
      | close l => exact Registry.lastSession_closeHandle _ l
      | _ => rfl
    · have hbefore := hshut h
      cases hmove with
      | deed h => exact (h.halted hstill).1.shut hbefore
      | close l => exact hbefore.of_map fun k => Registry.kept_or_shut_closeHandle _ l k
      | closeAll => exact hbefore.of_map fun k => .inr (Registry.handles_closeAll _ k)
      | _ => exact hbefore

/-- Nobody is started by a stopping supervisor, and the answer says so. -/
theorem start_of_stopping (setup : Setup σ) (ws : List Workspace) (hstop : s.isStopping = true) :
    (s.start setup ws).1 = some 0 := by
  have heach : ∀ (ws : List Workspace) (s : Supervisor σ), s.isStopping = true →
      (s.startEach setup ws).1 = some 0 := by
    intro ws
    induction ws with
    | nil => intro s _; rfl
    | cons w ws ih =>
      intro s hstop
      have hbudget : (s.ensureBudget w.localId setup.retryBudget).isStopping = true := by
        rw [← hstop]
        exact congrArg Tokens.rootCancelled (s.registry.tokens_ensureBudget _ _)
      have hone : s.startOne setup w = (.refused .shuttingDown,
          (s.ensureBudget w.localId setup.retryBudget).say .error w.localId
            s!"Failed to start tunnel: {StartError.shuttingDown.message}") := by
        rw [startOne, startTunnel, if_pos hbudget]
      rw [startEach, hone]
      exact ih _ hbudget
  unfold start
  split
  · rfl
  · exact heach ws _ hstop

/-- Nobody is restarted by a stopping supervisor. -/
theorem reset_of_stopping (setup : Setup σ) (w : Workspace) (hstop : s.isStopping = true)
    (r : Nat) (p : UInt16) : (s.reset setup w).1 ≠ some (.restarted r p) := by
  obtain ⟨assigner, store, lines, -, ⟨o, ho, hreset⟩ | ⟨-, -, hrunning, -⟩⟩ :=
    reset_outcomes setup w s
  · rw [hreset]
    exact ho r p
  · rw [hstop] at hrunning
    cases hrunning

/-! ## Waiting for the sessions -/

private theorem Deed.sublist_tasks (h : Deed s t) (hs : s.tasks.Sublist s.sessions) :
    t.tasks.Sublist t.sessions := by
  cases h with
  | start w p => exact hs.append (.refl _)
  | restart w p n assigner store lines => exact hs.append (.refl _)
  | _ => exact hs

/-- The sessions that have not ended are among all sessions, in the same order. -/
theorem Reachable.sublist_tasks (hs : Reachable setup s) : s.tasks.Sublist s.sessions := by
  refine hs.of_moves (P := fun s => s.tasks.Sublist s.sessions) ?_ ?_
  · rintro s ⟨store, assigner, rfl⟩
    exact .refl _
  · intro s t hmove hsub
    cases hmove with
    | deed h => exact h.sublist_tasks hsub
    | leave session => exact List.erase_sublist.trans hsub
    | _ => exact hsub

/-- Nobody waits for the end of a session twice. -/
theorem Reachable.nodup_tasks (hs : Reachable setup s) : s.tasks.Nodup := by
  have hnumbers : (s.sessions.map Session.number).Nodup := by
    rw [hs.sound.tracks.numbered]
    exact List.nodup_range'
  exact hs.sublist_tasks.nodup hnumbers.of_map

private theorem Deeds.tasks_of_stopping (h : Deeds s t) (hstop : s.isStopping = true) :
    t.tasks = s.tasks := by
  induction h with
  | refl => rfl
  | tail hdeeds hdeed ih =>
    have hstill := Moves.isStopping (Deeds.moves hdeeds) hstop
    exact (hdeed.halted hstill).2.trans ih

/-- Only the end of a session takes it off the sessions that a stopping supervisor waits
for, and nothing adds to them. -/
private theorem tasks_of_apply (hstop : s.isStopping = true) {e : Event σ}
    (h : e.apply setup s = some t) (hother : ∀ x ending, e ≠ .sessionEnded x ending) :
    t.tasks = s.tasks := by
  cases e with
  | start ws =>
    obtain rfl := Option.some.inj h
    exact (start_deeds setup ws s).tasks_of_stopping hstop
  | reset w =>
    obtain rfl := Option.some.inj h
    exact (reset_deeds setup w s).tasks_of_stopping hstop
  | recheck probe =>
    obtain rfl := Option.some.inj h
    exact (recheck_deeds setup probe s).tasks_of_stopping hstop
  | ensureBudget l n => obtain rfl := Option.some.inj h; rfl
  | resetRegistered l => obtain rfl := Option.some.inj h; rfl
  | report signal => obtain rfl := Option.some.inj h; rfl
  | sessionEnded x ending => exact absurd rfl (hother x ending)
  | closeSession l n => obtain rfl := Option.some.inj h; rfl
  | closeAll => obtain rfl := Option.some.inj h; rfl
  | shutdown => obtain rfl := Option.some.inj h; rfl
  | storeChanged store => obtain rfl := Option.some.inj h; rfl
  | beginLoop =>
    obtain rfl := Option.some.inj h
    unfold beginLoop
    split <;> rfl
  | receiveSignal => obtain ⟨signal, -, -, rfl⟩ := of_receiveSignal h; rfl
  | takeSnapshot => obtain ⟨-, rfl⟩ := of_takeSnapshot h; rfl
  | collectVerdicts probe => obtain ⟨ws, -, rfl⟩ := of_collectVerdicts h; rfl
  | stopLoop => obtain ⟨-, -, rfl⟩ := of_stopLoop h; rfl
  | treatNext =>
    obtain ⟨-, rfl⟩ | ⟨w, v, rest, -, ⟨-, rfl⟩ | ⟨-, rfl⟩⟩ := of_treatNext h
    · rfl
    · exact (treat_deeds setup w v s).tasks_of_stopping hstop
    · exact (treat_deeds setup w v s).tasks_of_stopping hstop

/-- What is left to wait for once an event has had its moment: the sessions that it did not
end. -/
private theorem mem_tasks_after (setup : Setup σ) (hstop : s.isStopping = true)
    (hnodup : s.tasks.Nodup) (e : Event σ) :
    ((e.apply setup s).getD s).tasks.Nodup ∧
      ∀ x, x ∈ ((e.apply setup s).getD s).tasks ↔
        x ∈ s.tasks ∧ ¬∃ ending, e = .sessionEnded x ending := by
  by_cases hends : ∃ x ending, e = .sessionEnded x ending
  · obtain ⟨x, ending, rfl⟩ := hends
    have htasks : (((Event.sessionEnded x ending).apply setup s).getD s).tasks =
        s.tasks.erase x := by
      by_cases hx : x ∈ s.tasks
      · have happly : (Event.sessionEnded x ending).apply setup s =
            some (s.sessionEnded x ending) := if_pos hx
        rw [happly, Option.getD_some, tasks_sessionEnded]
      · have happly : (Event.sessionEnded x ending).apply setup s = none := if_neg hx
        rw [happly, Option.getD_none, List.erase_of_not_mem hx]
    rw [htasks]
    refine ⟨hnodup.erase x, fun y => ?_⟩
    rw [hnodup.mem_erase_iff, and_comm]
    simp [eq_comm]
  · have hother : ∀ x ending, e ≠ .sessionEnded x ending := by simpa using hends
    have htasks : ((e.apply setup s).getD s).tasks = s.tasks := by
      cases happly : e.apply setup s with
      | none => rfl
      | some t => exact tasks_of_apply hstop happly hother
    rw [htasks]
    exact ⟨hnodup, fun y => by simp [hother]⟩

/-- A wait of a stopping supervisor is successful if and only if every session that is left
ends before the deadline. -/
theorem isDrained_waitAmid (setup : Setup σ) (deadline : Duration) {course : List (TimedEvent σ)}
    (hcourse : course.Pairwise fun x y => x.moment.nanoseconds ≤ y.moment.nanoseconds)
    (hstop : s.isStopping = true) (hnodup : s.tasks.Nodup) :
    (s.waitAmid setup deadline course).isDrained = true ↔
      ∀ x ∈ s.tasks, ∃ y ∈ course, y.moment.nanoseconds < deadline.nanoseconds ∧
        ∃ ending, y.event = .sessionEnded x ending := by
  induction course generalizing s with
  | nil => simp [waitAmid, isDrained, List.eq_nil_iff_forall_not_mem]
  | cons y course ih =>
    obtain ⟨hlater, hcourse⟩ := List.pairwise_cons.mp hcourse
    unfold waitAmid
    by_cases hdrained : s.tasks = []
    · have hover : s.waitIsOver deadline y.moment = true := by
        simp [waitIsOver, isDrained, hdrained]
      simp [hover, isDrained, hdrained]
    by_cases hdeadline : deadline.nanoseconds ≤ y.moment.nanoseconds
    · -- The deadline has come, and whatever is still to happen comes too late.
      have hover : s.waitIsOver deadline y.moment = true := by simp [waitIsOver, hdeadline]
      rw [if_pos hover]
      constructor
      · intro hempty
        exact absurd (List.isEmpty_iff.mp hempty) hdrained
      · intro hends
        obtain ⟨x, hx⟩ := List.exists_mem_of_ne_nil _ hdrained
        obtain ⟨z, hz, hearly, -⟩ := hends x hx
        rcases List.mem_cons.mp hz with rfl | hz
        · omega
        · have hle := hlater z hz
          omega
    · have hgoesOn : ¬s.waitIsOver deadline y.moment = true := by
        simp [waitIsOver, isDrained, hdrained, hdeadline]
      have hstill : ((y.event.apply setup s).getD s).isStopping = true := by
        cases happly : y.event.apply setup s with
        | none => exact hstop
        | some t => exact (moves_of_apply happly).isStopping hstop
      obtain ⟨hnodup', hleft⟩ := mem_tasks_after setup hstop hnodup y.event
      rw [if_neg hgoesOn, ih hcourse hstill hnodup']
      constructor
      · intro hends x hx
        by_cases hnow : ∃ ending, y.event = .sessionEnded x ending
        · exact ⟨y, List.mem_cons_self, by omega, hnow⟩
        · obtain ⟨z, hz, hrest⟩ := hends x ((hleft x).mpr ⟨hx, hnow⟩)
          exact ⟨z, List.mem_cons_of_mem _ hz, hrest⟩
      · intro hends x hx
        obtain ⟨hx, hnotNow⟩ := (hleft x).mp hx
        obtain ⟨z, hz, hearly, hend⟩ := hends x hx
        rcases List.mem_cons.mp hz with rfl | hz
        · exact absurd hend hnotNow
        · exact ⟨z, hz, hearly, hend⟩

/-! ## The theorem -/

/-- What a shutdown leaves behind is cancelled, closed and stopping. -/
private theorem shutdown_leaves (s : Supervisor σ) :
    s.shutdown.2.isStopping = true ∧ s.shutdown.2.registry.AllShut ∧
      s.shutdown.2.tasks = s.tasks ∧ s.shutdown.2.sessions = s.sessions ∧
      s.shutdown.2.registry.lastSession = s.registry.lastSession := by
  refine ⟨?_, fun l h hl => ?_, rfl, rfl, rfl⟩
  · exact Registry.rootCancelled_closeAll { s.registry with tokens := s.registry.tokens.cancelRoot }
  · have hshut := (Registry.handles_closeAll _ l).symm.trans hl
    obtain ⟨before, -, rfl⟩ := Option.map_eq_some_iff.mp hshut
    rfl

theorem isCancelled_of_stopping (hstop : s.isStopping = true) (n : Nat) :
    s.registry.tokens.isCancelled n = true := by
  have hroot : s.registry.tokens.rootCancelled = true := hstop
  rw [Tokens.isCancelled, hroot, Bool.true_or]

/-- A shutdown is complete and final, whenever it comes, also in the middle of a pass of the
health loop. It cancels the token of every session that was ever opened, and every row is
closed and otherwise what it was. The first shutdown answers how many rows were open; and
whatever happens while a shutdown waits, it answers that the sessions have drained if and
only if every session had ended before or ends within the grace period. In every run that
continues after a shutdown no session gets a number, every start counts nobody, no reset
restarts anything, every token stays cancelled, and every later shutdown closes nothing. -/
theorem Reachable.shutdown_complete_final (hs : Reachable setup s) (now : Duration)
    {course : List (TimedEvent σ)}
    (hcourse : course.Pairwise fun x y => x.moment.nanoseconds ≤ y.moment.nanoseconds) :
    let t := s.shutdown.2
    let report := (s.shutdownAmid setup now course).1
    (∀ x ∈ s.sessions, t.registry.tokens.isCancelled x.number = true) ∧
    t.registry.status = s.registry.status.map (fun row => { row with isOpen := false }) ∧
    (s.isStopping = false → report.closed = s.registry.status.countP (·.isOpen)) ∧
    (report.drained = true ↔ ∀ x ∈ s.sessions, x ∉ s.tasks ∨ ∃ y ∈ course,
      y.moment.nanoseconds < now.nanoseconds + setup.grace.nanoseconds ∧
        ∃ ending, y.event = .sessionEnded x ending) ∧
    ∀ u : Supervisor σ, Leads setup t u →
      u.sessions = s.sessions ∧ u.registry.lastSession = s.registry.lastSession ∧
      (∀ n, u.registry.tokens.isCancelled n = true) ∧
      (∀ ws, (u.start setup ws).1 = some 0) ∧
      (∀ w r p, (u.reset setup w).1 ≠ some (.restarted r p)) ∧
      ∀ later course', (u.shutdownAmid setup later course').1.closed = 0 := by
  intro t report
  obtain ⟨hstop, hshut, htasks, hsessions, hlast⟩ := shutdown_leaves s
  refine ⟨fun x _ => isCancelled_of_stopping hstop x.number, s.registry.status_shutdown, ?_, ?_, ?_⟩
  · intro hrunning
    rw [hs.cancelledByHandle.countP_open hrunning, List.countP_eq_length_filter]
    rfl
  · have hwait := isDrained_waitAmid setup (setup.deadline now) hcourse hstop
      (htasks ▸ hs.nodup_tasks)
    rw [htasks] at hwait
    refine hwait.trans ⟨fun hends x hx => ?_, fun hends x hx => ?_⟩
    · by_cases hleft : x ∈ s.tasks
      · exact .inr (hends x hleft)
      · exact .inl hleft
    · rcases hends x (hs.sublist_tasks.subset hx) with hended | hend
      · exact absurd hx hended
      · exact hend
  · intro u hlead
    have hstill : u.isStopping = true := hlead.moves.isStopping hstop
    obtain ⟨hsessions', hlast', hshut'⟩ := hlead.moves.halted hstop
    refine ⟨hsessions'.trans hsessions, hlast'.trans hlast, isCancelled_of_stopping hstill,
      fun ws => start_of_stopping setup ws hstill, fun w => reset_of_stopping setup w hstill,
      fun later course' => ?_⟩
    have hnone : ({ u.registry with tokens := u.registry.tokens.cancelRoot } : Registry).AllShut :=
      hshut' hshut
    exact hnone.closeAll_eq_zero

/-- Two sessions end, but the second one needs longer than the five seconds of grace. -/
theorem shutdown_complete_final_too_late :
    let s := SmallFleet.started
    let web : Session := ⟨1, SmallFleet.web, 1024⟩
    let db : Session := ⟨2, SmallFleet.db, 1025⟩
    let course := [⟨.ofSeconds 1, .sessionEnded web (.ok ())⟩,
      ⟨.ofSeconds 9, .sessionEnded db (.ok ())⟩]
    let report := (s.shutdownAmid SmallFleet.setup ⟨0⟩ course).1
    Reachable SmallFleet.setup s ∧
      (course.Pairwise fun x y => x.moment.nanoseconds ≤ y.moment.nanoseconds) ∧
      report.closed = 2 ∧ report.drained = false ∧
      Leads SmallFleet.setup s.shutdown.2 s.shutdown.2 ∧
      (s.shutdown.2.start SmallFleet.setup [SmallFleet.web]).1 = some 0 := by
  intro s web db course report
  have hcourse : course.Pairwise fun x y => x.moment.nanoseconds ≤ y.moment.nanoseconds := by
    decide +kernel
  have hlead : Leads SmallFleet.setup s.shutdown.2 s.shutdown.2 := .refl
  have hopen : s.registry.status.countP (·.isOpen) = 2 := by decide +kernel
  have hsession : db ∈ s.sessions := by decide +kernel
  have htask : db ∈ s.tasks := by decide +kernel
  obtain ⟨-, -, hclosed, hdrained, hafter⟩ :=
    Reachable.shutdown_complete_final SmallFleet.started_reachable ⟨0⟩ hcourse
  obtain ⟨-, -, -, hstart, -⟩ := hafter s.shutdown.2 hlead
  refine ⟨SmallFleet.started_reachable, hcourse, (hclosed (by decide +kernel)).trans hopen,
    Bool.eq_false_iff.mpr fun hinTime => ?_, hlead, hstart [SmallFleet.web]⟩
  rcases hdrained.mp hinTime db hsession with hended | ⟨y, hy, hearly, ending, hend⟩
  · exact hended htask
  · rcases List.mem_cons.mp hy with rfl | hy
    · have hsame : web = db := (Event.sessionEnded.inj hend).1
      exact absurd hsame (by decide)
    · obtain rfl := List.mem_singleton.mp hy
      exact absurd hearly (by decide)

end Supervisor

end TunnelFleet
