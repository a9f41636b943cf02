import Mathlib.Algebra.GroupWithZero.Nat
import Mathlib.Algebra.Order.BigOperators.Group.List
import Mathlib.Algebra.Order.Group.Nat
import TunnelFleet.Proofs.Supervision.Rehearsals
import TunnelFleet.Proofs.Supervision.SessionCosts

/-!
# The unrest of a rehearsal

`Rehearsal.unrest` counts what is queued together with what may be queued later. So waking, which
moves something from the one to the other, does not change it, and whoever leaves the queue is
worth what his job was counted with, less what may bring him back. Of the events only the
start of tunnels adds to it, as far as sessions and retries cost something.
-/

namespace TunnelFleet

/-! ## Sums over the numbers of runs -/

/-- If one summand changes, so does the sum, and by as much. -/
private theorem sum_range_of_one {n i : Nat} {f g : Nat → Nat} (hi : i < n)
    (hothers : ∀ j, j ≠ i → g j = f j) :
    ((List.range n).map g).sum + f i = ((List.range n).map f).sum + g i := by
  have hmem : i ∈ List.range n := List.mem_range.mpr hi
  have hrest : ((List.range n).erase i).map g = ((List.range n).erase i).map f :=
    List.map_congr_left fun j hj => hothers j (List.nodup_range.mem_erase_iff.mp hj).1
  have hf := List.sum_map_erase f hmem
  have hg := List.sum_map_erase g hmem
  rw [hrest] at hg
  omega

/-- Counting one by one. -/
private theorem countP_eq_sum {α : Type} (p : α → Bool) (xs : List α) :
    xs.countP p = (xs.map fun x => (p x).toNat).sum := by
  induction xs with
  | nil => rfl
  | cons x xs ih =>
    rw [List.countP_cons, List.map_cons, List.sum_cons, ih]
    cases p x with
    | true => exact Nat.add_comm _ _
    | false => exact (Nat.zero_add _).symm

/-- Neither a job of the health loop nor one in which a run goes on. -/
def Job.IsPlain (job : Job) : Prop := job.isLoop = false ∧ ∀ i, job.isRun i = false

namespace Rehearsal

variable {σ : Type} {r : Rehearsal σ} {job : Job} {queue : List Job} {i : Nat}

/-! ## The queue -/

theorem queueUnrest_eq (r : Rehearsal σ) :
    r.queueUnrest = (r.queue.map (Job.cost r.setup.retryBudget)).sum := rfl

theorem runsUnrest_eq (r : Rehearsal σ) :
    r.runsUnrest = ((List.range r.runs.length).map r.runUnrest).sum := rfl

/-- What another queue makes of the unrest. -/
theorem unrest_of_queue (r : Rehearsal σ) (queue : List Job) :
    { r with queue }.unrest + (r.queueUnrest + r.loopIdles.toNat + r.runsUnrest) =
      r.unrest + ({ r with queue }.queueUnrest + { r with queue }.loopIdles.toNat +
        { r with queue }.runsUnrest) := by
  have hsessions : { r with queue }.sessionsUnrest = r.sessionsUnrest := rfl
  simp only [unrest, hsessions]
  omega

/-- What is made of the unrest if it is all about the sessions. -/
theorem unrest_of_sessions {r' : Rehearsal σ} (hqueue : r'.queueUnrest = r.queueUnrest)
    (hloop : r'.loopIdles = r.loopIdles) (hruns : r'.runsUnrest = r.runsUnrest) :
    r'.unrest + r.sessionsUnrest = r.unrest + r'.sessionsUnrest := by
  simp only [unrest, hqueue, hloop, hruns]
  omega

theorem loopIdles_of_queue (h : queue.any Job.isLoop = r.queue.any Job.isLoop) :
    { r with queue }.loopIdles = r.loopIdles := by
  change (r.loopCanGoOn && !queue.any Job.isLoop) = (r.loopCanGoOn && !r.queue.any Job.isLoop)
  rw [h]

theorem runUnrest_of_queue (h : queue.any (Job.isRun i) = r.queue.any (Job.isRun i)) :
    { r with queue }.runUnrest i = r.runUnrest i := by
  simp only [runUnrest, runIdles, runQueued, h]

theorem runsUnrest_of_queue (h : ∀ i, queue.any (Job.isRun i) = r.queue.any (Job.isRun i)) :
    { r with queue }.runsUnrest = r.runsUnrest := by
  have hrun : { r with queue }.runUnrest = r.runUnrest := funext fun i => runUnrest_of_queue (h i)
  simp only [runsUnrest_eq, hrun]

/-- Plain jobs are worth what they cost. -/
theorem unrest_append (r : Rehearsal σ) {jobs : List Job} (hjobs : ∀ job ∈ jobs, job.IsPlain) :
    { r with queue := r.queue ++ jobs }.unrest =
      r.unrest + (jobs.map (Job.cost r.setup.retryBudget)).sum := by
  have hnoloop : jobs.any Job.isLoop = false :=
    List.any_eq_false.mpr fun job hjob => by simp [(hjobs job hjob).1]
  have hnorun : ∀ i, jobs.any (Job.isRun i) = false := fun i =>
    List.any_eq_false.mpr fun job hjob => by simp [(hjobs job hjob).2 i]
  have hloop : { r with queue := r.queue ++ jobs }.loopIdles = r.loopIdles :=
    loopIdles_of_queue (by simp [hnoloop])
  have hruns : { r with queue := r.queue ++ jobs }.runsUnrest = r.runsUnrest :=
    runsUnrest_of_queue fun i => by simp [hnorun]
  have hqueue : { r with queue := r.queue ++ jobs }.queueUnrest =
      r.queueUnrest + (jobs.map (Job.cost r.setup.retryBudget)).sum := by
    simp [queueUnrest_eq]
  have h := unrest_of_queue r (r.queue ++ jobs)
  rw [hloop, hruns, hqueue] at h
  omega

theorem unrest_of_plain (hqueue : r.queue = job :: queue) (hjob : job.IsPlain) :
    { r with queue }.unrest + job.cost r.setup.retryBudget = r.unrest := by
  obtain ⟨hnoloop, hnorun⟩ := hjob
  have hloop : { r with queue }.loopIdles = r.loopIdles :=
    loopIdles_of_queue (by simp [hqueue, hnoloop])
  have hruns : { r with queue }.runsUnrest = r.runsUnrest :=
    runsUnrest_of_queue fun i => by simp [hqueue, hnorun]
  have hcost : r.queueUnrest =
      job.cost r.setup.retryBudget + { r with queue }.queueUnrest := by
    simp [queueUnrest_eq, hqueue]
  have h := unrest_of_queue r queue
  rw [hloop, hruns, hcost] at h
  omega

/-- A job of the loop is worth one, unless the loop can be queued once more. -/
theorem unrest_of_loop (hqueue : r.queue = .healthLoop :: queue) :
    { r with queue }.unrest + 1 = r.unrest + { r with queue }.loopIdles.toNat := by
  have hqueued : r.loopIdles = false := by simp [loopIdles, loopQueued, hqueue, Job.isLoop]
  have hruns : { r with queue }.runsUnrest = r.runsUnrest :=
    runsUnrest_of_queue fun i => by simp [hqueue, Job.isRun]
  have hcost : r.queueUnrest = 1 + { r with queue }.queueUnrest := by
    simp [queueUnrest_eq, hqueue, Job.cost]
  have h := unrest_of_queue r queue
  rw [hqueued, hruns, hcost, Bool.toNat_false] at h
  omega

/-- A run may be queued once more when it is taken from the queue. -/
theorem runsUnrest_of_run (hqueue : r.queue = .run i :: queue) :
    { r with queue }.runsUnrest = r.runsUnrest + ({ r with queue }.runIdles i).toNat := by
  have hothers : ∀ j, j ≠ i → { r with queue }.runUnrest j = r.runUnrest j := by
    intro j hj
    have hij : (i == j) = false := beq_eq_false_iff_ne.mpr fun h => hj h.symm
    exact runUnrest_of_queue (by simp [hqueue, Job.isRun, hij])
  by_cases hi : i < r.runs.length
  · have hat : { r with queue }.runUnrest i =
        r.runUnrest i + ({ r with queue }.runIdles i).toNat := by
      have hqueued : r.runIdles i = false := by simp [runIdles, runQueued, hqueue, Job.isRun]
      simp only [runUnrest, hqueued, Bool.toNat_false, Nat.add_zero]
    have h := sum_range_of_one hi hothers
    change { r with queue }.runsUnrest + r.runUnrest i =
      r.runsUnrest + { r with queue }.runUnrest i at h
    omega
  · have hsame : ∀ j ∈ List.range r.runs.length, { r with queue }.runUnrest j = r.runUnrest j :=
      fun j hj => hothers j fun h => hi (h ▸ List.mem_range.mp hj)
    have hnone : ({ r with queue }.runIdles i).toNat = 0 := by simp [runIdles, hi]
    rw [hnone, Nat.add_zero, runsUnrest_eq, runsUnrest_eq, List.map_congr_left hsame]

/-- A job of a run is worth one, unless the run can be queued once more. -/
theorem unrest_of_run (hqueue : r.queue = .run i :: queue) :
    { r with queue }.unrest + 1 = r.unrest + ({ r with queue }.runIdles i).toNat := by
  have hloop : { r with queue }.loopIdles = r.loopIdles :=
    loopIdles_of_queue (by simp [hqueue, Job.isLoop])
  have hcost : r.queueUnrest = 1 + { r with queue }.queueUnrest := by
    simp [queueUnrest_eq, hqueue, Job.cost]
  have h := unrest_of_queue r queue
  rw [hloop, runsUnrest_of_run hqueue, hcost] at h
  omega

/-! ## Waking -/

/-- Sessions are counted before they are queued and afterwards. -/
theorem unrest_wakeSessions (r : Rehearsal σ) : r.wakeSessions.unrest = r.unrest := by
  let jobs := (r.supervisor.sessions.drop r.queued).map Job.openSession
  have hplain : ∀ job ∈ jobs, job.IsPlain := by
    intro job hjob
    obtain ⟨session, -, rfl⟩ := List.mem_map.mp hjob
    exact ⟨rfl, fun _ => rfl⟩
  have hcost : (jobs.map (Job.cost r.setup.retryBudget)).sum =
      3 * (r.supervisor.sessions.length - r.queued) := by
    simp [jobs, Function.comp_def, Job.cost, Nat.mul_comm]
  let m : Rehearsal σ := { r with queue := r.queue ++ jobs }
  have hqueue : m.unrest = r.unrest + _ := unrest_append r hplain
  have hsame : r.wakeSessions.unrest + m.sessionsUnrest =
      m.unrest + r.wakeSessions.sessionsUnrest := unrest_of_sessions rfl rfl rfl
  have hqueued : r.wakeSessions.sessionsUnrest +
      3 * (r.supervisor.sessions.length - r.queued) = m.sessionsUnrest := by
    simp only [sessionsUnrest, waitingCount, wakeSessions, m]
    omega
  omega

/-- A session that is told to end still counts with its end. -/
theorem unrest_wakeCancelled (r : Rehearsal σ) : r.wakeCancelled.unrest = r.unrest := by
  let jobs := (r.opened.filter r.yields).map fun o => Job.endSession o.session (.ok ())
  have hplain : ∀ job ∈ jobs, job.IsPlain := by
    intro job hjob
    obtain ⟨o, -, rfl⟩ := List.mem_map.mp hjob
    exact ⟨rfl, fun _ => rfl⟩
  have hcost : (jobs.map (Job.cost r.setup.retryBudget)).sum = 2 * r.opened.countP r.yields := by
    simp [jobs, Function.comp_def, Job.cost, Nat.mul_comm, List.countP_eq_length_filter]
  have hwaiting : r.wakeCancelled.waitingCount + r.opened.countP r.yields = r.waitingCount := by
    rw [waitingCount, wakeCancelled, List.countP_map, waitingCount, countP_eq_sum, countP_eq_sum,
      countP_eq_sum, ← List.sum_map_add]
    refine congrArg List.sum (List.map_congr_left fun o _ => ?_)
    cases hyields : r.yields o with
    | true =>
      have hwaits : o.waiting = true := by
        simp only [yields, Bool.and_eq_true] at hyields
        exact hyields.1.1
      simp [hyields, hwaits]
    | false => simp [hyields]
  let m : Rehearsal σ := { r with queue := r.queue ++ jobs }
  have hqueue : m.unrest = r.unrest + _ := unrest_append r hplain
  have hsame : r.wakeCancelled.unrest + m.sessionsUnrest =
      m.unrest + r.wakeCancelled.sessionsUnrest := unrest_of_sessions rfl rfl rfl
  let due := 3 * (r.supervisor.sessions.length - r.queued + r.supervisor.registry.allRetries)
  have hbefore : m.sessionsUnrest = due + 2 * r.waitingCount := rfl
  have hafter : r.wakeCancelled.sessionsUnrest = due + 2 * r.wakeCancelled.waitingCount := rfl
  omega

/-- The health loop is either about to be queued or queued. -/
theorem unrest_wakeLoop (r : Rehearsal σ) : r.wakeLoop.unrest = r.unrest := by
  unfold wakeLoop
  split
  · next hidles =>
    let queue := r.queue ++ [Job.healthLoop]
    have hqueued : { r with queue }.loopIdles = false := by
      simp [queue, loopIdles, loopQueued, Job.isLoop]
    have hruns : { r with queue }.runsUnrest = r.runsUnrest :=
      runsUnrest_of_queue fun i => by simp [queue, Job.isRun]
    have hcost : { r with queue }.queueUnrest = r.queueUnrest + 1 := by
      simp [queueUnrest_eq, queue, Job.cost]
    have h := unrest_of_queue r queue
    rw [hidles, hqueued, hruns, hcost, Bool.toNat_true, Bool.toNat_false] at h
    change { r with queue }.unrest = r.unrest
    omega
  · rfl

/-- Only a run that has been stopped can go on by itself. -/
theorem isLeaving_of_runCanGoOn (h : r.runCanGoOn i = true) :
    r.runs[i]?.any Run.isLeaving = true := by
  cases hrun : r.runs[i]? with
  | none => simp [runCanGoOn, hrun] at h
  | some run =>
    simp only [runCanGoOn, hrun, Option.any_some, Bool.or_eq_true] at h
    rw [Option.any_some]
    unfold Run.isLeaving
    rcases h with hdrain | hjoin
    · obtain ⟨deadline, hphase⟩ := Run.draining_of_canFinishDrain hdrain
      rw [hphase]
    · obtain ⟨hphase, -⟩ := Run.joining_of_canJoin hjoin
      rw [hphase]

/-- A run that has been stopped is either about to be queued or queued. -/
theorem unrest_wakeRuns (r : Rehearsal σ) : r.wakeRuns.unrest = r.unrest := by
  let able := fun i => r.runCanGoOn i && !r.runQueued i
  let queue := r.queue ++ ((List.range r.runs.length).filter able).map Job.run
  have hloop : { r with queue }.loopIdles = r.loopIdles :=
    loopIdles_of_queue (by simp [queue, Job.isLoop])
  have hcost : { r with queue }.queueUnrest =
      r.queueUnrest + (List.range r.runs.length).countP able := by
    simp [queueUnrest_eq, queue, Function.comp_def, Job.cost, List.countP_eq_length_filter]
  have hruns : { r with queue }.runsUnrest + (List.range r.runs.length).countP able =
      r.runsUnrest := by
    simp only [runsUnrest_eq, countP_eq_sum, ← List.sum_map_add]
    refine congrArg List.sum (List.map_congr_left fun i hi => ?_)
    have hany : queue.any (Job.isRun i) = (r.runQueued i || able i) := by
      rw [List.any_append, List.any_map]
      refine congrArg (r.runQueued i || ·) ?_
      rw [Bool.eq_iff_iff, List.any_eq_true]
      simp [Job.isRun, List.mem_range.mp hi]
    cases hable : able i with
    | true =>
      obtain ⟨hgoesOn, hqueued⟩ := Bool.and_eq_true_iff.mp hable
      have hidles : r.runIdles i = true := by
        rw [runIdles, isLeaving_of_runCanGoOn hgoesOn, hqueued]
        rfl
      have hqueuedNow : { r with queue }.runIdles i = false := by
        simp [runIdles, runQueued, hany, hable]
      simp only [runUnrest, hidles, hqueuedNow]
      rfl
    | false =>
      simp only [runUnrest, runIdles, runQueued, hany, hable]
      simp
  have h := unrest_of_queue r queue
  rw [hloop, hcost] at h
  change { r with queue }.unrest = r.unrest
  omega

/-- Waking makes for no more unrest. -/
@[simp] theorem unrest_wake (r : Rehearsal σ) : r.wake.unrest = r.unrest := by
  rw [wake, unrest_wakeRuns, unrest_wakeLoop, unrest_wakeCancelled, unrest_wakeSessions]

/-! ## Events -/

/-- What an event makes of the unrest, by what it costs, by what it makes of the runs and by what
it has to say to the loop. -/
theorem unrest_of_operation {o : Operation σ} {k : Nat}
    (h : Supervisor.Costs k r.supervisor o.supervisor) :
    { r with toOperation := o }.unrest + (r.loopIdles.toNat + r.runsUnrest) ≤
      r.unrest + 3 * k + ({ r with toOperation := o }.loopIdles.toNat +
        { r with toOperation := o }.runsUnrest) := by
  obtain ⟨hsessions, htotal⟩ := h
  have hqueue : { r with toOperation := o }.queueUnrest = r.queueUnrest := rfl
  have hwaiting : { r with toOperation := o }.waitingCount = r.waitingCount := rfl
  simp only [unrest, sessionsUnrest, hqueue, hwaiting]
  omega

/-- What happens to others makes no difference to a run. -/
theorem runUnrest_of_operation {o : Operation σ} (h : o.runs[i]? = r.runs[i]?) :
    { r with toOperation := o }.runUnrest i = r.runUnrest i := by
  simp only [runUnrest, runIdles, h]
  rfl

/-- As long as nothing happens to the runs, the unrest grows by no more than what is spent and by
what the loop is left with. -/
theorem unrest_of_runs {o : Operation σ} {k : Nat} (hruns : o.runs = r.runs)
    (h : Supervisor.Costs k r.supervisor o.supervisor) :
    { r with toOperation := o }.unrest + r.loopIdles.toNat ≤
      r.unrest + 3 * k + { r with toOperation := o }.loopIdles.toNat := by
  have hrun : { r with toOperation := o }.runUnrest = r.runUnrest :=
    funext fun i => runUnrest_of_operation (by rw [hruns])
  have hsum : { r with toOperation := o }.runsUnrest = r.runsUnrest := by
    simp only [runsUnrest_eq, hrun, hruns]
  have hall := unrest_of_operation h
  rw [hsum] at hall
  omega

theorem unrest_perform_le (r : Rehearsal σ) (e : Event σ) :
    (r.perform (.supervisor e)).unrest + r.loopIdles.toNat ≤
      r.unrest + 3 * e.outlay r.setup + (r.perform (.supervisor e)).loopIdles.toNat := by
  unfold perform
  split
  · next o ho =>
    obtain ⟨s, hs, rfl⟩ := Option.map_eq_some_iff.mp ho
    exact unrest_of_runs rfl (Supervisor.Costs.of_apply hs)
  · omega

/-- If nothing is started or handed out, only the loop can be left with something to do. -/
theorem unrest_performAll_le {events : List (Event σ)}
    (hfree : ∀ e ∈ events, ∀ setup, e.outlay setup = 0) (r : Rehearsal σ) :
    (r.performAll (events.map .supervisor)).unrest + r.loopIdles.toNat ≤
      r.unrest + (r.performAll (events.map .supervisor)).loopIdles.toNat := by
  induction events generalizing r with
  | nil => exact le_rfl
  | cons e events ih =>
    have hfirst := unrest_perform_le r e
    have hrest := ih (fun e he => hfree e (List.mem_cons_of_mem _ he)) (r.perform (.supervisor e))
    rw [hfree e List.mem_cons_self] at hfirst
    change (performAll _ (r.perform (.supervisor e))).unrest + _ ≤
      _ + (performAll _ (r.perform (.supervisor e))).loopIdles.toNat
    omega

theorem loopIdles_le_one (r : Rehearsal σ) : r.loopIdles.toNat ≤ 1 := Bool.toNat_le _

/-- The end of a session may leave the loop with something to do. -/
theorem unrest_sessionEnded_le (r : Rehearsal σ) (session : Session) (ending : Ending) :
    (r.perform (.supervisor (.sessionEnded session ending))).unrest ≤ r.unrest + 1 := by
  have h := unrest_perform_le r (.sessionEnded session ending)
  have hloop := loopIdles_le_one (r.perform (.supervisor (.sessionEnded session ending)))
  simp only [Event.outlay] at h
  omega

/-- Waking after an event makes no difference. -/
theorem unrest_happen (e : OperationEvent σ) (r : Rehearsal σ) :
    (r.happen e).unrest = (r.perform e).unrest := by
  unfold happen perform
  split
  · exact unrest_wake _
  · rfl

/-- If an event cannot happen, nothing does, and otherwise it is what counts. -/
theorem happen_cases (e : OperationEvent σ) (r : Rehearsal σ) :
    r.happen e = r ∨ ∃ o, e.apply r.setup r.toOperation = some o ∧
      (r.happen e).unrest = { r with toOperation := o }.unrest := by
  unfold happen
  split
  · next o ho => exact .inr ⟨o, ho, unrest_wake _⟩
  · exact .inl rfl

/-! ## Events of runs -/

theorem runUnrest_eq {run : Run} (hrun : r.runs[i]? = some run) :
    r.runUnrest i = run.cost + (run.isLeaving && !r.runQueued i).toNat := by
  simp [runUnrest, runIdles, hrun]

/-- What an event of one run makes of the unrest. -/
theorem unrest_of_set {o : Operation σ} {run run' : Run} (hrun : r.runs[i]? = some run)
    (hruns : o.runs = r.runs.set i run') (h : Supervisor.Costs 0 r.supervisor o.supervisor) :
    { r with toOperation := o }.unrest + r.loopIdles.toNat + r.runUnrest i ≤
      r.unrest + { r with toOperation := o }.loopIdles.toNat + run'.cost +
        (run'.isLeaving && !r.runQueued i).toNat := by
  obtain ⟨hi, -⟩ := List.getElem?_eq_some_iff.mp hrun
  have hat : { r with toOperation := o }.runUnrest i =
      run'.cost + (run'.isLeaving && !r.runQueued i).toNat :=
    runUnrest_eq (by rw [hruns, List.getElem?_set_self hi])
  have hothers : ∀ j, j ≠ i → { r with toOperation := o }.runUnrest j = r.runUnrest j := by
    intro j hj
    have hij : i ≠ j := fun h => hj h.symm
    exact runUnrest_of_operation (by rw [hruns, List.getElem?_set_ne hij])
  have hsum := sum_range_of_one hi hothers
  have hruns : { r with toOperation := o }.runsUnrest =
      ((List.range r.runs.length).map { r with toOperation := o }.runUnrest).sum := by
    rw [runsUnrest_eq, hruns, List.length_set]
  have hall := unrest_of_operation h
  rw [hruns] at hall
  change _ + r.runUnrest i = r.runsUnrest + _ at hsum
  omega

theorem runIdles_eq {run : Run} (hrun : r.runs[i]? = some run) :
    r.runIdles i = (run.isLeaving && !r.runQueued i) := by
  simp [runIdles, hrun]

/-- A run that is stopped need not be stopped again, but it may leave the loop with something to
do and may itself be queued again. -/
theorem unrest_stop_le {o : Operation σ}
    (h : (OperationEvent.stop i).apply r.setup r.toOperation = some o) :
    { r with toOperation := o }.unrest + (r.runIdles i).toNat ≤ r.unrest := by
  obtain ⟨run, phase, lines, hrun, hwaiting, hnext, hafter⟩ := Operation.of_stop h
  have hcosts : Supervisor.Costs 0 r.supervisor o.supervisor := by
    rw [hafter]
    exact .of_budgets rfl rfl
  have hset := unrest_of_set hrun (by rw [hafter]) hcosts
  have hloop := loopIdles_le_one { r with toOperation := o }
  have hidle := Bool.toNat_le ({ run with phase }.isLeaving && !r.runQueued i)
  have hbefore : run.cost = 3 ∧ run.isLeaving = false := by
    simp [Run.cost, Run.isLeaving, hwaiting]
  have hcost : { run with phase }.cost ≤ 1 := by
    rcases hnext with rfl | rfl <;> simp [Run.cost]
  rw [runUnrest_eq hrun, hbefore.1, hbefore.2, Bool.false_and, Bool.toNat_false] at hset
  rw [runIdles_eq hrun, hbefore.2, Bool.false_and, Bool.toNat_false]
  omega

/-- A run that no longer waits for its sessions may be queued again, for the last time. -/
theorem unrest_finishDrain_le {o : Operation σ}
    (h : (OperationEvent.finishDrain i).apply r.setup r.toOperation = some o) :
    { r with toOperation := o }.unrest + (r.runIdles i).toNat ≤ r.unrest := by
  obtain ⟨run, deadline, lines, hrun, hdraining, hafter⟩ := Operation.of_finishDrain h
  have hcosts : Supervisor.Costs 0 r.supervisor o.supervisor := by
    rw [hafter]
    exact .of_budgets rfl rfl
  have hset := unrest_of_set hrun (by rw [hafter]) hcosts
  have hloop : { r with toOperation := o }.loopIdles = r.loopIdles := by
    rw [hafter]
    rfl
  have hidle := Bool.toNat_le (r.runIdles i)
  have hbefore : run.cost = 1 ∧ run.isLeaving = true := by
    simp [Run.cost, Run.isLeaving, hdraining]
  rw [runUnrest_eq hrun, hloop, hbefore.1, hbefore.2] at hset
  simp only [Run.cost, Run.isLeaving] at hset
  omega

/-- A run that is complete is not queued again. -/
theorem unrest_join_le {o : Operation σ}
    (h : (OperationEvent.join i).apply r.setup r.toOperation = some o) :
    { r with toOperation := o }.unrest + (r.runIdles i).toNat ≤ r.unrest := by
  obtain ⟨run, hrun, hjoining, -, hafter⟩ := Operation.of_join h
  have hcosts : Supervisor.Costs 0 r.supervisor o.supervisor := by
    rw [hafter]
    exact .of_budgets rfl rfl
  have hset := unrest_of_set hrun (by rw [hafter]) hcosts
  have hloop : { r with toOperation := o }.loopIdles = r.loopIdles := by
    rw [hafter]
    rfl
  rw [runUnrest_eq hrun, hloop, ← runIdles_eq hrun] at hset
  simp only [Run.join, Run.cost, Run.isLeaving, Bool.false_and, Bool.toNat_false] at hset
  omega

/-- The call of a run may give the loop something to do. -/
theorem unrest_callLoop_le (i : Nat) (r : Rehearsal σ) :
    (r.happen (.callLoop i)).unrest ≤ r.unrest + 1 := by
  obtain hsame | ⟨o, ho, hunrest⟩ := happen_cases (.callLoop i) r
  · rw [hsame]
    exact Nat.le_succ _
  · obtain ⟨run, hrun, -, -, hafter⟩ := Operation.of_callLoop ho
    obtain ⟨loopCall, hruns, hsupervisor⟩ : ∃ loopCall,
        o.runs = r.runs.set i { run with loopCall } ∧
          o.supervisor = r.supervisor.beginLoop.2 := by
      obtain ⟨-, rfl⟩ | ⟨-, rfl⟩ := hafter
      · exact ⟨.looping, rfl, rfl⟩
      · exact ⟨.returned, rfl, rfl⟩
    have hcosts : Supervisor.Costs 0 r.supervisor o.supervisor := by
      have hbegin : Event.beginLoop.apply r.setup r.supervisor = some o.supervisor := by
        rw [hsupervisor]
        rfl
      exact Supervisor.Costs.of_apply hbegin
    have hset := unrest_of_set hrun hruns hcosts
    have hloop := loopIdles_le_one { r with toOperation := o }
    have hsame : { run with loopCall }.cost = run.cost ∧
        { run with loopCall }.isLeaving = run.isLeaving := ⟨rfl, rfl⟩
    rw [runUnrest_eq hrun, hsame.1, hsame.2] at hset
    omega

/-- A run that has begun waits or is over. -/
theorem begin_fresh (setup : Setup σ) (run : Run) (s : Supervisor σ) :
    (run.begin setup s).1.cost ≤ 3 ∧ (run.begin setup s).1.isLeaving = false := by
  unfold Run.begin
  split
  · simp [Run.cost, Run.isLeaving]
  · split
    · simp [Run.cost, Run.isLeaving]
    · split <;> simp [Run.cost, Run.isLeaving]

/-- A run begins with what it was counted for. -/
theorem unrest_perform_run_le (credentials : Except CredentialError Path) (ws : List Workspace)
    (r : Rehearsal σ) :
    (r.perform (.run credentials ws)).unrest ≤
      r.unrest + 3 * (ws.length * (r.setup.retryBudget + 1)) + 4 := by
  let begun := Run.begin r.setup { credentials, workspaces := ws } r.supervisor
  let o : Operation σ :=
    { r.toOperation with supervisor := begun.2, runs := r.runs ++ [begun.1] }
  have hcosts : Supervisor.Costs (ws.length * (r.setup.retryBudget + 1)) r.supervisor begun.2 :=
    .of_begin r.setup { credentials, workspaces := ws } r.supervisor
  obtain ⟨hcost, hleaving⟩ : begun.1.cost ≤ 3 ∧ begun.1.isLeaving = false :=
    begin_fresh r.setup { credentials, workspaces := ws } r.supervisor
  have hlast : o.runs[r.runs.length]? = some begun.1 := by simp [o]
  have hnew : { r with toOperation := o }.runUnrest r.runs.length ≤ 3 := by
    rw [runUnrest_eq hlast, hleaving]
    exact hcost
  have hold : ∀ i ∈ List.range r.runs.length,
      { r with toOperation := o }.runUnrest i = r.runUnrest i := by
    intro i hi
    exact runUnrest_of_operation (List.getElem?_append_left (List.mem_range.mp hi))
  have hsum : { r with toOperation := o }.runsUnrest =
      r.runsUnrest + { r with toOperation := o }.runUnrest r.runs.length := by
    have hlength : o.runs.length = r.runs.length + 1 := by simp [o]
    rw [runsUnrest_eq, hlength, List.range_succ, List.map_append, List.sum_append,
      List.map_congr_left hold]
    simp [runsUnrest_eq]
  have hall : { r with toOperation := o }.unrest + _ ≤ _ := unrest_of_operation hcosts
  have hloop := loopIdles_le_one { r with toOperation := o }
  rw [hsum] at hall
  change { r with toOperation := o }.unrest ≤ _
  omega

end Rehearsal

end TunnelFleet
