import TunnelFleet.Proofs.Supervision.Operations
import TunnelFleet.Supervision.Rehearsal

/-!
# What is rehearsed can happen

A rehearsal does its jobs one after the other, and a pass of the health loop in one go. All of it
is made of events of the operation, so whatever is rehearsed is a course that the operation can
take (`Plays`), and what is known of all courses holds of it.
-/

namespace TunnelFleet

variable {σ : Type}

/-- Events of one list happen before those of another one. -/
theorem OperationEvent.applyAll_append {setup : Setup σ} {xs ys : List (OperationEvent σ)}
    {o m o' : Operation σ} (hxs : applyAll setup xs o = some m)
    (hys : applyAll setup ys m = some o') : applyAll setup (xs ++ ys) o = some o' := by
  rw [applyAll, List.foldlM_append]
  exact Option.bind_eq_some_iff.mpr ⟨m, hxs, hys⟩

theorem OperationEvent.applyAll_singleton {setup : Setup σ} {e : OperationEvent σ}
    {o : Operation σ} : applyAll setup [e] o = e.apply setup o := by
  rw [applyAll, List.foldlM_cons]
  simp

namespace Rehearsal

variable {r r' r'' : Rehearsal σ}

/-- Whether events of the operation lead from one rehearsal to another one. -/
def Plays (r r' : Rehearsal σ) : Prop :=
  r'.setup = r.setup ∧
    ∃ events, OperationEvent.applyAll r.setup events r.toOperation = some r'.toOperation

namespace Plays

/-- Whoever leaves the operation alone plays nothing of it. -/
theorem of_same (hsetup : r'.setup = r.setup) (hsame : r'.toOperation = r.toOperation) :
    Plays r r' :=
  ⟨hsetup, [], congrArg some hsame.symm⟩

theorem trans (h : Plays r r') (h' : Plays r' r'') : Plays r r'' := by
  obtain ⟨hsetup, events, hevents⟩ := h
  obtain ⟨hsetup', events', hevents'⟩ := h'
  rw [hsetup] at hevents'
  exact ⟨hsetup'.trans hsetup, events ++ events', OperationEvent.applyAll_append hevents hevents'⟩

/-- An operation that was in order is so afterwards. -/
theorem orderly {past : List (OperationEvent σ)} (h : Plays r r')
    (hr : r.toOperation.Orderly past) : ∃ more, r'.toOperation.Orderly (past ++ more) := by
  obtain ⟨-, events, hevents⟩ := h
  exact ⟨events, hr.of_applyAll hevents⟩

end Plays

/-! ## Waking -/

@[simp] theorem toOperation_wake (r : Rehearsal σ) : r.wake.toOperation = r.toOperation := by
  change r.wakeSessions.wakeCancelled.wakeLoop.toOperation = _
  unfold wakeLoop
  split <;> rfl

@[simp] theorem setup_wake (r : Rehearsal σ) : r.wake.setup = r.setup := by
  change r.wakeSessions.wakeCancelled.wakeLoop.setup = _
  unfold wakeLoop
  split <;> rfl

theorem Plays.wake (h : Plays r r') : Plays r r'.wake :=
  h.trans (.of_same (setup_wake r') (toOperation_wake r'))

/-! ## Events -/

theorem plays_perform (e : OperationEvent σ) (r : Rehearsal σ) : Plays r (r.perform e) := by
  unfold perform
  split
  · next o ho => exact ⟨rfl, [e], OperationEvent.applyAll_singleton.trans ho⟩
  · exact .of_same rfl rfl

theorem plays_performAll (events : List (OperationEvent σ)) (r : Rehearsal σ) :
    Plays r (r.performAll events) := by
  induction events generalizing r with
  | nil => exact .of_same rfl rfl
  | cons e events ih => exact (plays_perform e r).trans (ih (r.perform e))

theorem plays_happen (e : OperationEvent σ) (r : Rehearsal σ) : Plays r (r.happen e) := by
  unfold happen
  split
  · next o ho =>
    have hevent : Plays r { r with toOperation := o } :=
      ⟨rfl, [e], OperationEvent.applyAll_singleton.trans ho⟩
    exact hevent.wake
  · exact .of_same rfl rfl

/-- A call from outside that does what an event does is this event. -/
theorem plays_call {α : Type} {f : Supervisor σ → α × Supervisor σ} {e : Event σ}
    (h : e.apply r.setup r.supervisor = some (f r.supervisor).2) : Plays r (r.call f).2 := by
  have hbecame : (r.supervisor.healthLoop == HealthLoop.idle &&
      (f r.supervisor).2.healthLoop != HealthLoop.idle) =
        OperationEvent.takesLoop e r.supervisor := by
    obtain ⟨htakes, hidle, hbegun⟩ | ⟨hnot, hidle⟩ := Supervisor.takesLoop_cases h
    · rw [htakes]
      simp [hidle, hbegun]
    · rw [hnot]
      simpa using hidle
  have hevent : (OperationEvent.supervisor e).apply r.setup r.toOperation =
      some ({ r.toOperation with supervisor := (f r.supervisor).2 }.enlist none
        (r.supervisor.healthLoop == HealthLoop.idle &&
          (f r.supervisor).2.healthLoop != HealthLoop.idle)) := by
    rw [hbecame]
    exact congrArg (Option.map _) h
  refine Plays.wake ?_
  exact ⟨rfl, [.supervisor e], OperationEvent.applyAll_singleton.trans hevent⟩

/-- What becomes of the supervisor with an event, if it can happen. -/
theorem supervisor_perform (e : Event σ) (r : Rehearsal σ) :
    (r.perform (.supervisor e)).supervisor = (e.apply r.setup r.supervisor).getD r.supervisor := by
  unfold perform
  cases he : e.apply r.setup r.supervisor with
  | none => simp [OperationEvent.apply, he]
  | some s => simp [OperationEvent.apply, he, Operation.enlist]

theorem supervisor_performAll (events : List (Event σ)) (r : Rehearsal σ) :
    (r.performAll (events.map .supervisor)).supervisor =
      events.foldl (fun s e => (e.apply r.setup s).getD s) r.supervisor := by
  induction events generalizing r with
  | nil => rfl
  | cons e events ih =>
    obtain ⟨hsetup, -⟩ := plays_perform (.supervisor e) r
    have hrest := ih (r.perform (.supervisor e))
    rw [hsetup, supervisor_perform] at hrest
    exact hrest

/-! ## Work -/

theorem plays_openSession (session : Session) (r : Rehearsal σ) :
    Plays r (r.openSession session) := by
  unfold openSession
  dsimp only
  split
  · next how hmode =>
    refine (Plays.trans ?_ (plays_perform _ _)).wake
    exact .of_same rfl rfl
  · refine Plays.wake ?_
    exact .of_same rfl rfl

theorem plays_noteProbes (ls : List LocalId) (r : Rehearsal σ) : Plays r (r.noteProbes ls) :=
  .of_same rfl rfl

theorem plays_workLoop (r : Rehearsal σ) : Plays r r.workLoop := by
  unfold workLoop
  split
  · exact (plays_perform _ r).wake
  · split
    · exact ((plays_performAll _ r).trans (plays_noteProbes _ _)).wake
    · exact .of_same rfl rfl

theorem plays_workBegin (credentials : Except CredentialError Path) (ws : List Workspace)
    (r : Rehearsal σ) : Plays r (r.workBegin credentials ws) := by
  have hbegin : Plays r (r.perform (.run credentials ws)).wakeSessions :=
    (plays_perform _ r).trans (.of_same rfl rfl)
  unfold workBegin
  dsimp only
  split
  · refine Plays.wake (hbegin.trans ?_)
    exact .of_same rfl rfl
  · exact hbegin.wake

theorem plays_workRun (i : Nat) (r : Rehearsal σ) : Plays r (r.workRun i) := by
  unfold workRun
  split
  · exact plays_happen _ r
  · exact plays_happen _ r
  · exact plays_happen _ r
  · exact .of_same rfl rfl

/-- Whatever is done in a job is a course of events. -/
theorem plays_work (job : Job) (r : Rehearsal σ) : Plays r (r.work job) := by
  cases job with
  | openSession session => exact plays_openSession session r
  | endSession session ending => exact plays_happen _ r
  | healthLoop => exact plays_workLoop r
  | beginRun credentials ws => exact plays_workBegin credentials ws r
  | run i => exact plays_workRun i r
  | runLoop i => exact plays_happen _ r

theorem plays_workAll (fuel : Nat) (r : Rehearsal σ) : Plays r (r.workAll fuel) := by
  induction fuel generalizing r with
  | zero => exact .of_same rfl rfl
  | succ fuel ih =>
    unfold workAll
    split
    · exact .of_same rfl rfl
    · next job queue hqueue =>
      have hdequeue : Plays r { r with queue } := .of_same rfl rfl
      exact (hdequeue.trans (plays_work job _)).trans (ih _)

/-- All the work until everybody is idle is a course of events. -/
theorem plays_settle (r : Rehearsal σ) : Plays r r.settle := plays_workAll _ r

/-! ## Time -/

theorem plays_passDeadlines (moment : Duration) (fuel : Nat) (r : Rehearsal σ) :
    Plays r (r.passDeadlines moment fuel) := by
  induction fuel generalizing r with
  | zero => exact .of_same rfl rfl
  | succ fuel ih =>
    unfold passDeadlines
    split
    · exact .of_same rfl rfl
    · next deadline _ =>
      exact ((plays_perform _ r).wake.trans (plays_settle _)).trans (ih _)

/-- And so is everything that happens while time passes. -/
theorem plays_wait (d : Duration) (r : Rehearsal σ) : Plays r (r.wait d) :=
  (((plays_settle r).trans (plays_passDeadlines _ _ _)).trans (plays_perform _ _)).trans
    (plays_settle _)

end Rehearsal

/-! ## Passes of the health loop -/

namespace Supervisor

variable {σ : Type} {setup : Setup σ} {s t : Supervisor σ} {n : Nat}

/-- Neither a signal nor the shutdown has come in for the health loop. -/
def IsCalm (s : Supervisor σ) : Prop := s.isStopping = false ∧ s.mailbox.pending = none

/-- Nothing comes in while the loop acts on a verdict. -/
theorem IsCalm.of_treat (hs : s.IsCalm) (setup : Setup σ) (w : Workspace) (v : Verdict) :
    (s.treat setup w v).2.IsCalm := by
  have hdeeds := treat_deeds setup w v s
  obtain ⟨hmailbox, -⟩ := hdeeds.frame
  exact ⟨hdeeds.isStopping_eq.trans hs.1, (congrArg Mailbox.pending hmailbox).trans hs.2⟩

/-- Nothing has come in for the health loop, and after so many steps it listens again, if it
does not have to give up. -/
def FinishesIn (n : Nat) (s : Supervisor σ) : Prop :=
  s.IsCalm ∧ ((∃ verdicts, s.healthLoop = .treating verdicts ∧ verdicts.length < n) ∨
    s.healthLoop = .listening ∨ s.healthLoop = .ended)

theorem FinishesIn.treatNext (setup : Setup σ) (h : s.FinishesIn (n + 1)) :
    ((s.treatNext setup).getD s).FinishesIn n := by
  obtain ⟨hcalm, ⟨verdicts, hloop, hlength⟩ | hlistening | hended⟩ := h
  · have hsome : (s.treatNext setup).isSome = true := isSome_treatNext hloop
    obtain ⟨t, ht⟩ := Option.isSome_iff_exists.mp hsome
    rw [ht, Option.getD_some]
    obtain ⟨-, rfl⟩ | ⟨w, v, rest, hrest, hafter⟩ := of_treatNext ht
    · exact ⟨hcalm, .inr (.inl rfl)⟩
    · obtain rfl := HealthLoop.treating.inj (hloop.symm.trans hrest)
      obtain ⟨hstop, hpending⟩ := hcalm.of_treat setup w v
      rcases hafter with ⟨-, rfl⟩ | ⟨-, rfl⟩
      · exact ⟨⟨hstop, hpending⟩, .inl ⟨rest, rfl, Nat.lt_of_succ_lt_succ hlength⟩⟩
      · exact ⟨⟨hstop, rfl⟩, .inr (.inr rfl)⟩
  · have hnone : s.treatNext setup = none := by simp [Supervisor.treatNext, hlistening]
    rw [hnone]
    exact ⟨hcalm, .inr (.inl hlistening)⟩
  · have hnone : s.treatNext setup = none := by simp [Supervisor.treatNext, hended]
    rw [hnone]
    exact ⟨hcalm, .inr (.inr hended)⟩

theorem FinishesIn.foldl_treatNext (setup : Setup σ) (h : s.FinishesIn n) :
    ((List.replicate n Event.treatNext).foldl (fun s e => (e.apply setup s).getD s)
      s).FinishesIn 0 := by
  induction n generalizing s with
  | zero => exact h
  | succ n ih =>
    rw [List.replicate_succ, List.foldl_cons]
    exact ih (h.treatNext setup)

/-- A loop that receives a signal makes a whole pass. -/
theorem finishes_pass (setup : Setup σ) (probe : Workspace → Verdict) (hstop : s.stopLoop = none)
    (h : s.receiveSignal = some t) :
    ((Rehearsal.passEvents probe s.registry.workspaces.length).foldl
      (fun s e => (e.apply setup s).getD s) s).FinishesIn 0 := by
  obtain ⟨signal, hlistening, -, rfl⟩ := of_receiveSignal h
  have hrunning : s.isStopping = false := by simpa [stopLoop, hlistening] using hstop
  rw [Rehearsal.passEvents, List.foldl_cons]
  change (List.foldl _ ((s.receiveSignal).getD s) _).FinishesIn 0
  rw [h]
  refine FinishesIn.foldl_treatNext setup ⟨⟨hrunning, rfl⟩, .inl ⟨_, rfl, ?_⟩⟩
  rw [List.length_map]
  exact Nat.lt_succ_self _

end Supervisor

end TunnelFleet
