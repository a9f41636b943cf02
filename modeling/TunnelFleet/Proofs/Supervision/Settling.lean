import TunnelFleet.Proofs.Supervision.Unrest

/-!
# Rehearsals come to rest

After a call from outside a rehearsal works until its queue is empty. Every job uses up what it
was counted for in `Rehearsal.unrest`, unless a run was queued that has to wait after all; then
at least the queue gets shorter. So `Rehearsal.jobBound` goes down with every job, and in the
end nobody can go on.
-/

namespace TunnelFleet

namespace Rehearsal

variable {σ : Type} {r : Rehearsal σ} {job : Job} {queue : List Job} {i : Nat}

/-! ## Jobs -/

/-- A session that waits is counted with its end. -/
theorem unrest_opened (plans : Std.ExtTreeMap LocalId Plan) (o : OpenedSession) :
    { r with plans, opened := r.opened ++ [o] }.unrest = r.unrest + 2 * o.waiting.toNat := by
  have hwaiting : { r with plans, opened := r.opened ++ [o] }.waitingCount =
      r.waitingCount + o.waiting.toNat := by
    rw [waitingCount, List.countP_append, waitingCount]
    cases hwaits : o.waiting <;> simp [hwaits]
  have hsame : { r with plans, opened := r.opened ++ [o] }.unrest + r.sessionsUnrest =
      r.unrest + { r with plans, opened := r.opened ++ [o] }.sessionsUnrest :=
    unrest_of_sessions rfl rfl rfl
  simp only [sessionsUnrest, hwaiting] at hsame
  omega

/-- A session is opened for less than it was counted with. -/
theorem unrest_openSession_lt (session : Session) (r : Rehearsal σ) :
    (r.openSession session).unrest < r.unrest + 3 := by
  unfold openSession
  dsimp only
  split
  · rw [unrest_wake]
    refine (unrest_sessionEnded_le _ _ _).trans_lt ?_
    rw [unrest_opened]
    simp
  · rw [unrest_wake, unrest_opened]
    simp

/-- The health loop can go on if it can stop or receive a signal. -/
theorem loopCanGoOn_eq (r : Rehearsal σ) :
    r.loopCanGoOn = (r.supervisor.stopLoop.isSome || r.supervisor.receiveSignal.isSome) := by
  unfold loopCanGoOn
  cases hloop : r.supervisor.healthLoop with
  | listening =>
    cases hpending : r.supervisor.mailbox.pending <;>
      cases hstop : r.supervisor.isStopping <;>
        simp [Supervisor.stopLoop, Supervisor.receiveSignal, Mailbox.receive, hloop, hpending,
          hstop]
  | _ => simp [Supervisor.stopLoop, Supervisor.receiveSignal, hloop]

/-- A loop that is calm or over has nothing to do. -/
theorem loopIdles_of_finished (h : r.supervisor.FinishesIn 0) : r.loopIdles = false := by
  obtain ⟨⟨hstop, hpending⟩, -⟩ := h
  simp [loopIdles, loopCanGoOn, hstop, hpending]

/-- The loop leaves nothing behind that it has to do. -/
theorem unrest_workLoop_le (r : Rehearsal σ) :
    r.workLoop.unrest + r.loopIdles.toNat ≤ r.unrest := by
  unfold workLoop
  split
  · next hstop =>
    obtain ⟨s, hs⟩ := Option.isSome_iff_exists.mp hstop
    obtain ⟨-, -, rfl⟩ := Supervisor.of_stopLoop hs
    have hover : (r.perform (.supervisor .stopLoop)).supervisor = r.supervisor.endLoop := by
      rw [supervisor_perform, Event.apply, hs, Option.getD_some]
    have hdone : (r.perform (.supervisor .stopLoop)).loopIdles = false := by
      simp [loopIdles, loopCanGoOn, hover, Supervisor.endLoop]
    have h := unrest_perform_le r .stopLoop
    rw [hdone] at h
    rw [unrest_wake]
    exact h
  · split
    · next hstop hreceive =>
      obtain ⟨s, hs⟩ := Option.isSome_iff_exists.mp hreceive
      let pass : List (Event σ) := passEvents r.verdict r.supervisor.registry.workspaces.length
      have hfree : ∀ e ∈ pass, ∀ setup, e.outlay setup = 0 := by
        simp [pass, passEvents, Event.outlay]
      have hfinished : (r.performAll (pass.map .supervisor)).supervisor.FinishesIn 0 := by
        rw [supervisor_performAll]
        exact Supervisor.finishes_pass r.setup r.verdict (by simpa using hstop) hs
      have h := unrest_performAll_le hfree r
      rw [loopIdles_of_finished hfinished] at h
      rw [unrest_wake]
      exact h
    · next hstop hreceive =>
      have hcannot : r.loopIdles = false := by
        simp [loopIdles, loopCanGoOn_eq, hstop, hreceive]
      rw [hcannot]
      exact le_rfl

/-- A run that goes on uses up what it was counted for, unless it has to wait after all. -/
theorem workRun_cases (i : Nat) (r : Rehearsal σ) :
    r.workRun i = r ∨ (r.workRun i).unrest + (r.runIdles i).toNat ≤ r.unrest := by
  unfold workRun
  split
  · obtain hsame | ⟨o, ho, hunrest⟩ := happen_cases (.stop i) r
    · exact .inl hsame
    · exact .inr (hunrest ▸ unrest_stop_le ho)
  · obtain hsame | ⟨o, ho, hunrest⟩ := happen_cases (.finishDrain i) r
    · exact .inl hsame
    · exact .inr (hunrest ▸ unrest_finishDrain_le ho)
  · obtain hsame | ⟨o, ho, hunrest⟩ := happen_cases (.join i) r
    · exact .inl hsame
    · exact .inr (hunrest ▸ unrest_join_le ho)
  · exact .inl rfl

theorem unrest_workBegin_lt (credentials : Except CredentialError Path) (ws : List Workspace)
    (r : Rehearsal σ) :
    (r.workBegin credentials ws).unrest <
      r.unrest + 3 * (ws.length * (r.setup.retryBudget + 1)) + 7 := by
  have hbegun := unrest_perform_run_le credentials ws r
  have hwake := unrest_wakeSessions (r.perform (.run credentials ws))
  unfold workBegin
  dsimp only
  split
  · rw [unrest_wake]
    have hplain : ∀ job ∈ [Job.runLoop r.runs.length], job.IsPlain := by
      simp [Job.IsPlain, Job.isLoop, Job.isRun]
    have hcall := unrest_append (r.perform (.run credentials ws)).wakeSessions hplain
    simp only [List.map_cons, List.map_nil, List.sum_cons, List.sum_nil, Job.cost] at hcall
    omega
  · rw [unrest_wake]
    omega

/-! ## Coming to rest -/

/-- After a job there is less unrest, or there is no more than before and one job less. -/
theorem unrest_work (hqueue : r.queue = job :: queue) :
    ({ r with queue }.work job).unrest < r.unrest ∨
      ({ r with queue }.work job).unrest ≤ r.unrest ∧
        ({ r with queue }.work job).queue = queue := by
  cases job with
  | openSession session =>
    have hplain := unrest_of_plain hqueue ⟨rfl, fun _ => rfl⟩
    have hwork := unrest_openSession_lt session { r with queue }
    simp only [Job.cost] at hplain
    exact .inl (by rw [work]; omega)
  | endSession session ending =>
    have hplain := unrest_of_plain hqueue ⟨rfl, fun _ => rfl⟩
    have hwork := unrest_sessionEnded_le { r with queue } session ending
    simp only [Job.cost] at hplain
    exact .inl (by rw [work, unrest_happen]; omega)
  | healthLoop =>
    have hloop := unrest_of_loop hqueue
    have hwork := unrest_workLoop_le { r with queue }
    exact .inl (by rw [work]; omega)
  | beginRun credentials ws =>
    have hplain := unrest_of_plain hqueue ⟨rfl, fun _ => rfl⟩
    have hwork : _ < _ + 3 * (ws.length * (r.setup.retryBudget + 1)) + 7 :=
      unrest_workBegin_lt credentials ws { r with queue }
    simp only [Job.cost] at hplain
    exact .inl (by rw [work]; omega)
  | run i =>
    have hrun := unrest_of_run hqueue
    have hidles := Bool.toNat_le ({ r with queue }.runIdles i)
    obtain hsame | hwork := workRun_cases i { r with queue }
    · rw [work, hsame]
      exact .inr ⟨by omega, rfl⟩
    · exact .inl (by rw [work]; omega)
  | runLoop i =>
    have hplain := unrest_of_plain hqueue ⟨rfl, fun _ => rfl⟩
    have hwork := unrest_callLoop_le i { r with queue }
    simp only [Job.cost] at hplain
    exact .inl (by rw [work]; omega)

/-- Every job that waits is counted. -/
theorem length_queue_le (r : Rehearsal σ) : r.queue.length ≤ r.unrest := by
  have hcosts : ∀ n ∈ r.queue.map (Job.cost r.setup.retryBudget), 1 ≤ n := by
    intro n hn
    obtain ⟨job, -, rfl⟩ := List.mem_map.mp hn
    cases job <;> simp [Job.cost]
  have hlength := List.length_le_sum_of_one_le _ hcosts
  rw [List.length_map, ← queueUnrest_eq] at hlength
  unfold unrest
  omega

/-- Every job brings a rehearsal closer to its rest. -/
theorem jobBound_work_lt (hqueue : r.queue = job :: queue) :
    ({ r with queue }.work job).jobBound < r.jobBound := by
  have hjobs := length_queue_le ({ r with queue }.work job)
  unfold jobBound
  obtain hless | ⟨hle, hrest⟩ := unrest_work hqueue
  · -- The queue may have grown, but not beyond the unrest that is left.
    have hsquare : ({ r with queue }.work job).unrest * (({ r with queue }.work job).unrest + 1) ≤
        r.unrest * r.unrest :=
      Nat.mul_le_mul hless.le hless
    rw [Nat.mul_succ] at hsquare
    rw [hqueue, List.length_cons]
    omega
  · have hsquare := Nat.mul_le_mul hle hle
    rw [hrest, hqueue, List.length_cons]
    omega

/-- With as many jobs as the bound says, everything is done that comes up. -/
theorem queue_workAll {fuel : Nat} (h : r.jobBound ≤ fuel) : (r.workAll fuel).queue = [] := by
  induction fuel generalizing r with
  | zero =>
    unfold jobBound at h
    change r.queue = []
    exact List.eq_nil_of_length_eq_zero (by omega)
  | succ fuel ih =>
    unfold workAll
    cases hqueue : r.queue with
    | nil => exact hqueue
    | cons job queue =>
      have hless := jobBound_work_lt hqueue
      exact ih (by omega)

/-- A rehearsal works until its queue is empty. -/
theorem queue_settle (r : Rehearsal σ) : r.settle.queue = [] := queue_workAll le_rfl

/-! ## Who can go on -/

/-- Whoever can go on by himself is queued. -/
structure IsAwake (r : Rehearsal σ) : Prop where
  sessions : r.supervisor.sessions.length ≤ r.queued
  opened : ∀ o ∈ r.opened, r.yields o = false
  loop : r.loopCanGoOn = true → r.loopQueued = true
  runs : ∀ i, r.runCanGoOn i = true → r.runQueued i = true

theorem wakeLoop_eq (r : Rehearsal σ) :
    r.wakeLoop = { r with queue := r.queue ++ if r.loopIdles then [.healthLoop] else [] } := by
  unfold wakeLoop
  split
  · rfl
  · rw [List.append_nil]

/-- Waking leaves nobody out. -/
theorem isAwake_wake (r : Rehearsal σ) : r.wake.IsAwake where
  sessions := by
    rw [wake, wakeLoop_eq]
    exact le_rfl
  opened := by
    rw [wake, wakeLoop_eq]
    intro o ho
    obtain ⟨x, -, rfl⟩ := List.mem_map.mp ho
    change r.yields (if r.yields x then { x with waiting := false } else x) = false
    cases hyields : r.yields x with
    | true => simp [yields]
    | false => simpa using hyields
  loop := by
    rw [wake, wakeLoop_eq]
    intro hcan
    change r.wakeSessions.wakeCancelled.loopCanGoOn = true at hcan
    change ((r.wakeSessions.wakeCancelled.queue ++ _) ++ _).any Job.isLoop = true
    rw [List.any_append, List.any_append]
    cases hqueued : r.wakeSessions.wakeCancelled.loopQueued with
    | true =>
      change r.wakeSessions.wakeCancelled.queue.any Job.isLoop = true at hqueued
      rw [hqueued, Bool.true_or, Bool.true_or]
    | false => simp [loopIdles, hcan, hqueued, Job.isLoop]
  runs := by
    let l := r.wakeSessions.wakeCancelled.wakeLoop
    intro i hcan
    change l.runCanGoOn i = true at hcan
    change (l.queue ++ ((List.range l.runs.length).filter fun i =>
      l.runCanGoOn i && !l.runQueued i).map Job.run).any (Job.isRun i) = true
    rw [List.any_append]
    cases hqueued : l.runQueued i with
    | true =>
      change l.queue.any (Job.isRun i) = true at hqueued
      rw [hqueued, Bool.true_or]
    | false =>
      have hi : i < l.runs.length := by
        by_contra hi
        have hnone : l.runs[i]? = none := List.getElem?_eq_none (Nat.le_of_not_lt hi)
        simp [runCanGoOn, hnone] at hcan
      have hable : i ∈ (List.range l.runs.length).filter fun i =>
          l.runCanGoOn i && !l.runQueued i := by
        simp [hi, hcan, hqueued]
      have hadded : (((List.range l.runs.length).filter fun i =>
          l.runCanGoOn i && !l.runQueued i).map Job.run).any (Job.isRun i) = true :=
        List.any_eq_true.mpr ⟨.run i, List.mem_map.mpr ⟨i, hable, rfl⟩, beq_self_eq_true i⟩
      rw [hadded, Bool.or_true]

/-- Whoever leaves the queue makes no difference to those who stay. -/
theorem IsAwake.of_queue (h : r.IsAwake)
    (hloop : r.loopCanGoOn = true → queue.any Job.isLoop = r.loopQueued)
    (hruns : ∀ i, r.runCanGoOn i = true → queue.any (Job.isRun i) = r.runQueued i) :
    { r with queue }.IsAwake where
  sessions := h.sessions
  opened := h.opened
  loop hcan := (hloop hcan).trans (h.loop hcan)
  runs i hcan := (hruns i hcan).trans (h.runs i hcan)

theorem IsAwake.happen (h : r.IsAwake) (e : OperationEvent σ) : (r.happen e).IsAwake := by
  unfold Rehearsal.happen
  split
  · exact isAwake_wake _
  · exact h

/-- What can happen makes others able to go on. -/
theorem happen_eq_wake {e : OperationEvent σ} {o : Operation σ}
    (h : e.apply r.setup r.toOperation = some o) :
    r.happen e = { r with toOperation := o }.wake := by
  unfold Rehearsal.happen
  rw [h]

/-- A run that can go on does so. -/
theorem workRun_of_runCanGoOn (hcan : r.runCanGoOn i = true) :
    ∃ m : Rehearsal σ, r.workRun i = m.wake := by
  cases hrun : r.runs[i]? with
  | none => simp [runCanGoOn, hrun] at hcan
  | some run =>
    simp only [runCanGoOn, hrun, Option.any_some, Bool.or_eq_true] at hcan
    unfold workRun
    rw [hrun, Option.map_some]
    rcases hcan with hdrain | hjoin
    · obtain ⟨deadline, hphase⟩ := Run.draining_of_canFinishDrain hdrain
      have hevent : ∃ o, (OperationEvent.finishDrain i).apply r.setup r.toOperation = some o := by
        rw [OperationEvent.apply]
        exact ⟨_, Operation.goOn_eq hrun hdrain⟩
      obtain ⟨o, ho⟩ := hevent
      rw [hphase]
      exact ⟨_, happen_eq_wake ho⟩
    · obtain ⟨hphase, -⟩ := Run.joining_of_canJoin hjoin
      have hevent : ∃ o, (OperationEvent.join i).apply r.setup r.toOperation = some o := by
        rw [OperationEvent.apply]
        exact ⟨_, Operation.goOn_eq hrun hjoin⟩
      obtain ⟨o, ho⟩ := hevent
      rw [hphase]
      exact ⟨_, happen_eq_wake ho⟩

theorem IsAwake.workRun (h : r.IsAwake) (hqueue : r.queue = .run i :: queue) :
    ({ r with queue }.workRun i).IsAwake := by
  by_cases hcan : { r with queue }.runCanGoOn i = true
  · obtain ⟨m, hm⟩ := workRun_of_runCanGoOn hcan
    rw [hm]
    exact isAwake_wake m
  · have hrest : { r with queue }.IsAwake := by
      refine h.of_queue (fun _ => by simp [loopQueued, hqueue, Job.isLoop]) fun j hj => ?_
      have hij : (i == j) = false := beq_eq_false_iff_ne.mpr fun h => hcan (h ▸ hj)
      simp [runQueued, hqueue, Job.isRun, hij]
    unfold Rehearsal.workRun
    split
    · exact hrest.happen _
    · exact hrest.happen _
    · exact hrest.happen _
    · exact hrest

/-- Nobody is forgotten in a job. -/
theorem IsAwake.work (h : r.IsAwake) (hqueue : r.queue = job :: queue) :
    ({ r with queue }.work job).IsAwake := by
  have hplain : job.IsPlain → { r with queue }.IsAwake := by
    rintro ⟨hloop, hruns⟩
    exact h.of_queue (fun _ => by simp [loopQueued, hqueue, hloop])
      fun i _ => by simp [runQueued, hqueue, hruns]
  cases job with
  | openSession session =>
    rw [Rehearsal.work]
    unfold openSession
    dsimp only
    split <;> exact isAwake_wake _
  | endSession session ending => exact (hplain ⟨rfl, fun _ => rfl⟩).happen _
  | healthLoop =>
    rw [Rehearsal.work]
    unfold workLoop
    split
    · exact isAwake_wake _
    · split
      · exact isAwake_wake _
      · next hstop hreceive =>
        have hcannot : r.loopCanGoOn = false := by
          rw [loopCanGoOn_eq]
          simpa using And.intro hstop hreceive
        exact h.of_queue (fun hcan => absurd hcan (by simp [hcannot]))
          fun i _ => by simp [runQueued, hqueue, Job.isRun]
  | beginRun credentials ws =>
    rw [Rehearsal.work]
    unfold workBegin
    dsimp only
    split <;> exact isAwake_wake _
  | run i => exact h.workRun hqueue
  | runLoop i => exact (hplain ⟨rfl, fun _ => rfl⟩).happen _

theorem IsAwake.workAll (h : r.IsAwake) (fuel : Nat) : (r.workAll fuel).IsAwake := by
  induction fuel generalizing r with
  | zero => exact h
  | succ fuel ih =>
    unfold Rehearsal.workAll
    cases hqueue : r.queue with
    | nil => exact h
    | cons job queue => exact ih (h.work hqueue)

/-- Nobody has anything to do: all sessions have been opened, those that are cancelled have
ended, and neither the health loop nor a run can go on. -/
structure IsIdle (r : Rehearsal σ) : Prop where
  queue : r.queue = []
  sessions : r.supervisor.sessions.length ≤ r.queued
  opened : ∀ o ∈ r.opened, r.yields o = false
  loop : r.loopCanGoOn = false
  runs : ∀ i, r.runCanGoOn i = false

/-- Once everybody who can go on is queued, a rehearsal works until nobody can. -/
theorem IsAwake.settle (h : r.IsAwake) : r.settle.IsIdle := by
  obtain ⟨hsessions, hopened, hloop, hruns⟩ := h.workAll r.jobBound
  have hqueue := queue_settle r
  refine ⟨hqueue, hsessions, hopened, ?_, fun i => ?_⟩
  · refine Bool.eq_false_iff.mpr fun hcan => ?_
    have hqueued : r.settle.loopQueued = true := hloop hcan
    simp [loopQueued, hqueue] at hqueued
  · refine Bool.eq_false_iff.mpr fun hcan => ?_
    have hqueued : r.settle.runQueued i = true := hruns i hcan
    simp [runQueued, hqueue] at hqueued

/-- At first there is nobody who could go on. -/
theorem isAwake_of_fresh (setup : Setup σ) {s : Supervisor σ} (h : s.IsFresh) :
    ({ setup, supervisor := s } : Rehearsal σ).IsAwake := by
  obtain ⟨store, assigner, rfl⟩ := h
  exact
    { sessions := le_rfl
      opened := nofun
      loop := nofun
      runs := fun i hcan => by simp [runCanGoOn] at hcan }

/-- And a call from outside leaves nobody out. -/
theorem isAwake_call {α : Type} (f : Supervisor σ → α × Supervisor σ) (r : Rehearsal σ) :
    (r.call f).2.IsAwake := isAwake_wake _

/-! ## Time -/

@[simp] theorem queue_perform (e : OperationEvent σ) (r : Rehearsal σ) :
    (r.perform e).queue = r.queue := by
  unfold perform
  split <;> rfl

theorem queue_passDeadlines (moment : Duration) (fuel : Nat) (h : r.queue = []) :
    (r.passDeadlines moment fuel).queue = [] := by
  induction fuel generalizing r with
  | zero => exact h
  | succ fuel ih =>
    unfold passDeadlines
    split
    · exact h
    · exact ih (queue_settle _)

/-- Time passes only while nobody is queued. -/
theorem queue_passUntil (moment : Duration) (h : r.queue = []) :
    (r.passUntil moment).queue = [] := by
  rw [passUntil, passTo, queue_perform]
  exact queue_passDeadlines moment _ h

end Rehearsal

end TunnelFleet
