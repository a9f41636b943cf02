import TunnelFleet.Proofs.Supervision.Operations

/-!
# What a run promises

A run fails for want of a key and for nothing else, and then, as with nothing to do, it
leaves the supervisor as it was and waits for nobody. Any other run ends only once it was
told to, and leaves nothing open and no health loop of its own behind. Where it stands in
between is what `Operation.Orderly` says. Here it is shown that once the stop signal has
come nobody outside is needed any more: time, the health loop and the run itself bring the
run to its end.
-/

namespace TunnelFleet

namespace OperationEvent

variable {σ : Type}

/-- What a run waits for once the stop signal has come to it: steps of its own, steps of a
health loop whose probes find these verdicts, and time. -/
inductive WindsUp (probe : Workspace → Verdict) (i : Nat) : OperationEvent σ → Prop
  | callLoop : WindsUp probe i (.callLoop i)
  | finishDrain : WindsUp probe i (.finishDrain i)
  | join : WindsUp probe i (.join i)
  | loopStep {e : Event σ} (he : e ∈ Supervisor.loopSteps probe) : WindsUp probe i (.supervisor e)
  | stopLoop : WindsUp probe i (.supervisor .stopLoop)
  | timePasses (d : Duration) : WindsUp probe i (.timePasses d)

end OperationEvent

namespace Operation

variable {σ : Type} {setup : Setup σ} {past : List (OperationEvent σ)} {o m : Operation σ}
  {s t : Supervisor σ} {r : Run} {i : Nat} {probe : Workspace → Verdict}

/-! ## Winding up -/

/-- A run can come to its good end without anybody outside. -/
def Completes (setup : Setup σ) (probe : Workspace → Verdict) (i : Nat) (o : Operation σ) : Prop :=
  ∃ course : List (OperationEvent σ), (∀ e ∈ course, e.WindsUp probe i) ∧
    ∃ o' r, OperationEvent.applyAll setup course o = some o' ∧ o'.runs[i]? = some r ∧
      r.phase = .done (.ok ())

namespace Completes

theorem of_done (hr : o.runs[i]? = some r) (hphase : r.phase = .done (.ok ())) :
    Completes setup probe i o :=
  ⟨[], by simp, o, r, rfl, hr, hphase⟩

theorem of_step (h : Completes setup probe i m) {e : OperationEvent σ} (hwinds : e.WindsUp probe i)
    (he : e.apply setup o = some m) : Completes setup probe i o := by
  obtain ⟨course, hcourse, o', r, hrest, hr, hphase⟩ := h
  exact ⟨e :: course, List.forall_mem_cons.mpr ⟨hwinds, hcourse⟩, o', r,
    applyAll_cons.mpr ⟨m, he, hrest⟩, hr, hphase⟩

/-- A step of the health loop leaves the runs alone. -/
theorem of_loopStep {e : Event σ} (hwinds : (OperationEvent.supervisor e).WindsUp probe i)
    (ht : e.apply setup o.supervisor = some t)
    (h : Completes setup probe i { o with supervisor := t }) : Completes setup probe i o := by
  refine h.of_step hwinds ?_
  have hnot : OperationEvent.takesLoop e o.supervisor = false := by
    cases hwinds with
    | loopStep he =>
      simp only [Supervisor.loopSteps, List.mem_cons, List.not_mem_nil, or_false] at he
      obtain rfl | rfl | rfl | rfl := he <;> rfl
    | stopLoop => rfl
  rw [OperationEvent.apply, ht, hnot]
  rfl

end Completes

/-! ### The last steps -/

/-- A run whose own call of the health loop has come back is about to be complete. -/
theorem completes_of_canJoin (hr : o.runs[i]? = some r) (hjoin : r.canJoin o.supervisor = true) :
    Completes setup probe i o := by
  have hlt : i < o.runs.length := (List.getElem?_eq_some_iff.mp hr).1
  have hstep : (OperationEvent.join i).apply setup o =
      some { o with runs := o.runs.set i r.join } :=
    goOn_eq (f := fun r s => (r.join, s)) hr hjoin
  exact Completes.of_step (.of_done (List.getElem?_set_self hlt) rfl) .join hstep

/-- A run waits for the health loop that it has called, on a supervisor that is shut down. -/
structure AwaitsLoop (i : Nat) (o : Operation σ) : Prop where
  sound : o.supervisor.Sound
  stopping : o.supervisor.isStopping = true
  run : ∃ r, o.runs[i]? = some r ∧ r.phase = .joining ∧ r.loopCall = .looping

namespace AwaitsLoop

/-- The health loop goes on while the run waits for it. -/
theorem goesOn (h : AwaitsLoop i o) {e : Event σ}
    (hwinds : (OperationEvent.supervisor e).WindsUp probe i)
    (ht : e.apply setup o.supervisor = some t)
    (hrest : AwaitsLoop i { o with supervisor := t } →
      Completes setup probe i { o with supervisor := t }) : Completes setup probe i o := by
  have hst := Supervisor.Persists.of_apply setup h.sound ht
  exact .of_loopStep hwinds ht (hrest ⟨hst.sound, hst.stopping h.stopping, h.run⟩)

theorem of_ended (h : AwaitsLoop i o) (hloop : o.supervisor.healthLoop = .ended) :
    Completes setup probe i o := by
  obtain ⟨r, hr, hphase, hcall⟩ := h.run
  refine completes_of_canJoin hr ?_
  rw [Run.canJoin, hphase, hcall, hloop]
  rfl

theorem of_listening (h : AwaitsLoop i o) (hloop : o.supervisor.healthLoop = .listening) :
    Completes setup probe i o := by
  have hend : o.supervisor.stopLoop = some o.supervisor.endLoop := by
    rw [Supervisor.stopLoop, hloop]
    exact if_pos h.stopping
  exact h.goesOn (e := .stopLoop) .stopLoop hend fun h => h.of_ended rfl

theorem of_treating (h : AwaitsLoop i o) {verdicts : List (Workspace × Verdict)}
    (hloop : o.supervisor.healthLoop = .treating verdicts) : Completes setup probe i o := by
  have hwinds : (OperationEvent.supervisor (.treatNext : Event σ)).WindsUp probe i :=
    .loopStep (by simp [Supervisor.loopSteps])
  induction verdicts generalizing o with
  | nil =>
    have hnext : o.supervisor.treatNext setup =
        some ({ o.supervisor with healthLoop := .listening }.record [.passEnded]) := by
      rw [Supervisor.treatNext, hloop]
    exact h.goesOn hwinds hnext fun h => h.of_listening rfl
  | cons x rest ih =>
    obtain ⟨w, v⟩ := x
    have hregistered := h.sound.targets w (HealthLoop.mem_targets hloop)
    obtain ⟨t, ht⟩ : ∃ t, o.supervisor.treat setup w v = (true, t) :=
      ⟨_, Prod.ext (h.sound.treat_goesOn setup v hregistered) rfl⟩
    have hnext : o.supervisor.treatNext setup = some { t with healthLoop := .treating rest } := by
      rw [Supervisor.treatNext, hloop]
      simp only [ht]
    exact h.goesOn hwinds hnext fun h => ih h rfl

theorem of_probing (h : AwaitsLoop i o) {ws : List Workspace}
    (hloop : o.supervisor.healthLoop = .probing ws) : Completes setup probe i o := by
  have hnext : o.supervisor.collectVerdicts probe =
      some { (o.supervisor.probeEach .healthLoop probe ws).2 with
        healthLoop := .treating (o.supervisor.probeEach .healthLoop probe ws).1 } := by
    rw [Supervisor.collectVerdicts, hloop]
  exact h.goesOn (e := .collectVerdicts probe) (.loopStep (by simp [Supervisor.loopSteps])) hnext
    fun h => h.of_treating rfl

/-- Wherever the health loop stands, it comes to its end, and with it the run. -/
theorem completes (h : AwaitsLoop i o) (hbegun : o.supervisor.healthLoop ≠ .idle) :
    Completes setup probe i o := by
  cases hloop : o.supervisor.healthLoop with
  | idle => exact absurd hloop hbegun
  | listening => exact h.of_listening hloop
  | alerted =>
    have hnext : o.supervisor.takeSnapshot =
        some ({ o.supervisor with
          healthLoop := .probing o.supervisor.registry.workspaces }.record
          [.surveyed o.supervisor.registry.workspaces]) := by
      rw [Supervisor.takeSnapshot, hloop]
    exact h.goesOn (e := .takeSnapshot) (.loopStep (by simp [Supervisor.loopSteps])) hnext
      fun h => h.of_probing rfl
  | probing ws => exact h.of_probing hloop
  | treating verdicts => exact h.of_treating hloop
  | ended => exact h.of_ended hloop

end AwaitsLoop

namespace Orderly

/-- A run whose call of the health loop has begun comes to its end after its sessions. -/
theorem completes_of_called (h : Orderly past o) (hr : o.runs[i]? = some r)
    (hphase : r.phase = .joining) (hcall : r.loopCall ≠ .pending) : Completes setup probe i o := by
  cases hloop : r.loopCall with
  | pending => exact absurd hloop hcall
  | returned => exact completes_of_canJoin hr (by rw [Run.canJoin, hphase, hloop])
  | looping =>
    have hwaits : AwaitsLoop i o := by
      obtain ⟨-, hwaits | ⟨-, hstopping, -⟩⟩ :=
        (h.stands hr).of_not_over (by rw [Run.isOver, hphase])
      · cases hwaits.symm.trans hphase
      · exact ⟨h.sound, hstopping, r, hr, hphase, hloop⟩
    refine hwaits.completes fun hidle => ?_
    have hmine := (h.looping hr).mp hloop
    rw [h.idle.mpr hidle] at hmine
    cases hmine

/-- A run that no longer waits for its sessions comes to its end. -/
theorem completes_of_joining (h : Orderly past o) (hr : o.runs[i]? = some r)
    (hphase : r.phase = .joining) : Completes setup probe i o := by
  by_cases hcall : r.loopCall = .pending
  · -- The call that is still in the background begins, and becomes the health loop or returns.
    have hcan : r.canCallLoop = true := by rw [Run.canCallLoop, hphase, hcall]; rfl
    have hlt : i < o.runs.length := (List.getElem?_eq_some_iff.mp hr).1
    have hstep : (OperationEvent.callLoop i).apply setup o =
        some ({ o with
          supervisor := (r.callLoop o.supervisor).2
          runs := o.runs.set i (r.callLoop o.supervisor).1 }.enlist (some i)
            o.supervisor.beginLoop.1) :=
      congrArg (Option.map (Operation.enlist (some i) o.supervisor.beginLoop.1))
        (goOn_eq (f := Run.callLoop) hr hcan)
    refine Completes.of_step ?_ .callLoop hstep
    refine (h.of_apply hstep).completes_of_called (List.getElem?_set_self hlt) hphase ?_
    change (if o.supervisor.beginLoop.1 then LoopCall.looping else .returned) ≠ .pending
    split
    · exact nofun
    · exact nofun
  · exact h.completes_of_called hr hphase hcall

/-- A run that was told to stop comes to its end, whatever the probes of the health loop find. -/
theorem completes (h : Orderly past o) (hr : o.runs[i]? = some r) (hover : r.isOver = false)
    (hstopped : r.phase ≠ .waiting) : Completes setup probe i o := by
  obtain ⟨-, hwaits | ⟨-, -, ⟨deadline, hphase⟩ | hphase⟩⟩ := (h.stands hr).of_not_over hover
  · exact absurd hwaits hstopped
  · -- Once the deadline has come, the run does not wait for its sessions any longer.
    let late : Operation σ := { o with now := ⟨o.now.nanoseconds + deadline.nanoseconds⟩ }
    have hlate : (OperationEvent.timePasses deadline).apply setup o = some late := rfl
    have hcan : r.canFinishDrain late.now late.supervisor = true := by
      rw [Run.canFinishDrain, hphase]
      simp [late, Supervisor.waitIsOver]
    have hlt : i < o.runs.length := (List.getElem?_eq_some_iff.mp hr).1
    have hstep : (OperationEvent.finishDrain i).apply setup late =
        some { late with
          supervisor := (r.finishDrain setup late.supervisor).2
          runs := late.runs.set i (r.finishDrain setup late.supervisor).1 } :=
      goOn_eq (f := Run.finishDrain setup) hr hcan
    obtain ⟨lines, hfinish⟩ := r.finishDrain_eq setup late.supervisor
    rw [hfinish] at hstep
    exact ((((h.of_apply hlate).of_apply hstep).completes_of_joining
      (List.getElem?_set_self hlt) rfl).of_step .finishDrain hstep).of_step (.timePasses _) hlate
  · exact h.completes_of_joining hr hphase

/-- The stop signal can come to a run that waits for it at any moment, and then the run comes to
its end. -/
theorem completes_of_stop (h : Orderly past o) (hr : o.runs[i]? = some r)
    (hphase : r.phase = .waiting) :
    ∃ m, (OperationEvent.stop i).apply setup o = some m ∧ Completes setup probe i m := by
  have hlt : i < o.runs.length := (List.getElem?_eq_some_iff.mp hr).1
  have hstep : (OperationEvent.stop i).apply setup o =
      some { o with
        supervisor := (r.stop setup o.now o.supervisor).2
        runs := o.runs.set i (r.stop setup o.now o.supervisor).1 } :=
    goOn_eq (f := Run.stop setup o.now) hr (by rw [Run.isWaiting, hphase])
  obtain ⟨phase, lines, hstop, hnext⟩ := r.stop_eq setup o.now o.supervisor
  rw [hstop] at hstep
  refine ⟨_, hstep, (h.of_apply hstep).completes (List.getElem?_set_self hlt) ?_ ?_⟩
  · obtain rfl | rfl := hnext
    · rfl
    · rfl
  · obtain rfl | rfl := hnext
    · exact nofun
    · exact nofun

end Orderly

/-! ## The theorem -/

/-- What runs promise, whatever else happens to the supervisor, on which any number of runs may
begin at any time. A run fails if and only if no key is found. If so, and if there is nothing to
do, it is over as soon as it has begun and the supervisor is exactly what it was; otherwise it
waits for the stop signal. It comes to a good end only after this signal has come to it, however
many tunnels failed meanwhile; then and ever after the supervisor is shut down, every row is
closed, and the run's call of the health loop has come back: at once, or with the end of the
loop. The signal can come at any moment, and once it has come the run needs nobody outside to
come to this end. One call of the health loop at most ever becomes the loop, be it a run's or
somebody else's; without it no signal is received, and all calls after it are refused. -/
theorem runs_until_stopped (hs : s.Reachable setup)
    (hrange : s.assigner.drawing.range.size ≠ 0) {events : List (OperationEvent σ)}
    (h : OperationEvent.applyAll setup events (.on s) = some o) :
    (∀ credentials ws, ∃ r t,
      (OperationEvent.run credentials ws).apply setup o =
        some { o with supervisor := t, runs := o.runs ++ [r] } ∧
      r.credentials = credentials ∧ r.workspaces = ws ∧
      (∀ e, credentials = .error e → r.phase = .done (.error (.preflight e)) ∧ t = o.supervisor) ∧
      (∀ p, credentials = .ok p → ws = [] → r.phase = .done (.ok ()) ∧ t = o.supervisor) ∧
      (∀ p, credentials = .ok p → ws ≠ [] → r.phase = .waiting)) ∧
    (∀ (i : Nat) (r : Run), o.runs[i]? = some r →
      (∀ e, r.phase = .done (.error (.preflight e)) ↔ r.credentials = .error e) ∧
      (r.phase = .done (.ok ()) → r.workspaces ≠ [] →
        .stop i ∈ events ∧ o.supervisor.isStopping = true ∧
        (∀ row ∈ o.supervisor.registry.status, row.isOpen = false) ∧
        (r.loopCall = .returned ∨ r.loopCall = .looping ∧ o.supervisor.healthLoop = .ended)) ∧
      (r.phase = .waiting → ∀ probe, ∃ m, (OperationEvent.stop i).apply setup o = some m ∧
        Completes setup probe i m) ∧
      (r.isOver = false → r.phase ≠ .waiting → ∀ probe, Completes setup probe i o) ∧
      r.phase ≠ .aborted) ∧
    o.loops.length ≤ 1 ∧
    (∀ (i : Nat) (r : Run), o.runs[i]? = some r → (r.loopCall = .looping ↔ some i ∈ o.loops)) ∧
    (o.loops = [] → o.supervisor.receivedSignals = []) ∧
    (o.loops ≠ [] → ∃ lines, o.supervisor.beginLoop = (false, o.supervisor.note lines)) := by
  have horder : Orderly events o := (Orderly.on hs hrange).of_applyAll h
  refine ⟨fun credentials ws => ?_, fun i r hr => ⟨(horder.stands hr).failed_iff,
    fun hphase hwork => ?_, fun hphase probe => horder.completes_of_stop hr hphase,
    fun hover hstopped probe => horder.completes hr hover hstopped,
    (horder.stands hr).not_aborted⟩, horder.one, fun i r hr => horder.looping hr,
    fun hnone => horder.unheard (horder.idle.mp hnone), fun hsome => ?_⟩
  · rw [apply_run]
    obtain ⟨e, rfl, hbegin⟩ | ⟨p, rfl, ⟨rfl, hbegin⟩ | ⟨hwork, hbegin⟩⟩ :=
      Run.begin_cases setup horder.sound horder.range credentials ws
    all_goals
      rw [hbegin]
      refine ⟨_, _, rfl, rfl, rfl, ?_⟩
    · simp
    · simp
    · simp [hwork]
  · obtain ⟨hstop, hstopping, hloop⟩ := (horder.stands hr).of_complete hphase hwork
    exact ⟨hstop, hstopping, fun row hrow => Supervisor.closed_of_stopping hstopping hrow, hloop⟩
  · obtain ⟨hidle, -⟩ | ⟨-, hrefused⟩ := o.supervisor.beginLoop_cases
    · exact absurd (horder.idle.mpr hidle) hsome
    · exact hrefused

/-- A run starts two tunnels and becomes the health loop, another one finds no key, and a call of
the health loop from outside is refused. One session fails before the stop signal and one outlives
the grace period. -/
theorem runs_until_stopped_one_failure :
    let s := SmallFleet.fresh
    let events : List (OperationEvent PinTable) :=
      [.run (.ok ⟨["key"]⟩) [SmallFleet.web, SmallFleet.db], .callLoop 0, .supervisor .beginLoop,
        .run (.error .notFound) [SmallFleet.web],
        .supervisor (.sessionEnded ⟨1, SmallFleet.web, 1024⟩ (.ok ())), .stop 0,
        .timePasses (.ofSeconds 5), .finishDrain 0, .supervisor .stopLoop, .join 0]
    ∃ (o : Operation PinTable) (r : Run), s.Reachable SmallFleet.setup ∧
      s.assigner.drawing.range.size ≠ 0 ∧
      OperationEvent.applyAll SmallFleet.setup events (.on s) = some o ∧
      o.runs[0]? = some r ∧ r.phase = .done (.ok ()) ∧ .stop 0 ∈ events ∧
      o.supervisor.isStopping = true ∧
      (∀ row ∈ o.supervisor.registry.status, row.isOpen = false) ∧
      o.supervisor.healthLoop = .ended ∧ o.loops.length ≤ 1 := by
  intro s events
  have hs : s.Reachable SmallFleet.setup := .fresh ⟨_, _, rfl⟩
  have hrange : s.assigner.drawing.range.size ≠ 0 := by decide +kernel
  have hend : (OperationEvent.applyAll SmallFleet.setup events (.on s)).any (fun o =>
      o.runs[0]?.any fun r => r.isOver && r.credentials.isOk && r.loopCall == .looping &&
        !r.workspaces.isEmpty) = true := by
    decide +kernel
  obtain ⟨o, ho, hrun⟩ := (Option.any_eq_true _ _).mp hend
  obtain ⟨r, hr, hfacts⟩ := (Option.any_eq_true _ _).mp hrun
  simp only [Bool.and_eq_true, beq_iff_eq, Bool.not_eq_true', List.isEmpty_eq_false_iff] at hfacts
  obtain ⟨⟨⟨hover, hkey⟩, hlooping⟩, hwork⟩ := hfacts
  obtain ⟨-, hruns, hone, -⟩ := runs_until_stopped hs hrange ho
  obtain ⟨hfails, hcomplete, -, -, haborted⟩ := hruns 0 r hr
  have hphase : r.phase = .done (.ok ()) := by
    cases hphase : r.phase with
    | done result =>
      cases result with
      | ok u => rfl
      | error e =>
        cases e with
        | preflight e =>
          rw [(hfails e).mp hphase] at hkey
          cases hkey
    | aborted => exact absurd hphase haborted
    | _ => simp [Run.isOver, hphase] at hover
  obtain ⟨hstop, hstopping, hclosed, hreturned | ⟨-, hended⟩⟩ := hcomplete hphase hwork
  · cases hreturned.symm.trans hlooping
  · exact ⟨o, r, hs, hrange, ho, hr, hphase, hstop, hstopping, hclosed, hended, hone⟩

end Operation

end TunnelFleet
