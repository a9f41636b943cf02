import TunnelFleet.Proofs.Supervision.Cascade
import TunnelFleet.Proofs.Supervision.Shutdown
import TunnelFleet.Proofs.Supervision.StartCourse
import TunnelFleet.Supervision.Operation

/-!
# What runs on one supervisor preserve

A run goes through its phases in one direction only, and what each phase has reached is
never undone by what else goes on: a supervisor that is shut down stays so, and so does a
health loop that is over. `Operation.Orderly` says where every run stands and whose call
became the health loop; every event preserves it.
-/

namespace TunnelFleet

namespace Supervisor

variable {σ : Type} {setup : Setup σ} {s t u : Supervisor σ}

/-! ## Where ports are drawn from -/

theorem drawing_launch (w : Workspace) (p : UInt16) (s : Supervisor σ) :
    (s.launch w p).2.assigner.drawing = s.assigner.drawing := by
  obtain ⟨current, -, -, hlaunch⟩ | ⟨-, hlaunch⟩ := launch_cases w p s
  · rw [hlaunch]
  · rw [hlaunch]
    rfl

theorem drawing_startTunnel (setup : Setup σ) (w : Workspace) (s : Supervisor σ) :
    (s.startTunnel setup w).2.assigner.drawing = s.assigner.drawing := by
  have hresolve := Assigner.drawing_resolve setup.ports setup.sampler w.localId s.assigner s.store
  unfold startTunnel
  split
  · rfl
  · dsimp only
    split
    · exact hresolve
    · exact hresolve
    · exact (drawing_launch w _ _).trans hresolve

theorem drawing_startOne (setup : Setup σ) (w : Workspace) (s : Supervisor σ) :
    (s.startOne setup w).2.assigner.drawing = s.assigner.drawing := by
  have hstart := drawing_startTunnel setup w (s.ensureBudget w.localId setup.retryBudget)
  unfold startOne
  cases h : (s.ensureBudget w.localId setup.retryBudget).startTunnel setup w with
  | mk o m =>
    rw [h] at hstart
    cases o with
    | started p => exact hstart
    | refused e => exact hstart
    | aborted => exact hstart

theorem drawing_startEach (setup : Setup σ) (ws : List Workspace) (s : Supervisor σ) :
    (s.startEach setup ws).2.assigner.drawing = s.assigner.drawing := by
  induction ws generalizing s with
  | nil => rfl
  | cons w ws ih =>
    have hone := drawing_startOne setup w s
    unfold startEach
    cases hstart : s.startOne setup w with
    | mk o m =>
      rw [hstart] at hone
      cases o with
      | started p => exact (ih m).trans hone
      | refused e => exact (ih m).trans hone
      | aborted => exact hone

theorem drawing_start (setup : Setup σ) (ws : List Workspace) (s : Supervisor σ) :
    (s.start setup ws).2.assigner.drawing = s.assigner.drawing := by
  rw [start_eq_startEach]
  exact (drawing_startEach setup ws _).trans
    (Assigner.drawing_reserve setup.ports s.store s.assigner ws)

theorem drawing_reset (setup : Setup σ) (w : Workspace) (s : Supervisor σ) :
    (s.reset setup w).2.assigner.drawing = s.assigner.drawing := by
  unfold reset
  cases hreset : s.resetRegistered w.localId with
  | mk decision m =>
    obtain rfl : (s.resetRegistered w.localId).2 = m := by rw [hreset]
    cases decision with
    | unknown => rfl
    | exhausted first => cases first <;> rfl
    | retry n =>
      have hstart := drawing_startTunnel setup w (s.resetRegistered w.localId).2
      dsimp only
      cases h : (s.resetRegistered w.localId).2.startTunnel setup w with
      | mk o u =>
        rw [h] at hstart
        cases o with
        | started p => exact hstart
        | refused e => exact hstart
        | aborted => exact hstart

theorem drawing_treat (setup : Setup σ) (w : Workspace) (v : Verdict) (s : Supervisor σ) :
    (s.treat setup w v).2.assigner.drawing = s.assigner.drawing := by
  cases v with
  | healthy => rfl
  | unhealthy reason => exact drawing_reset setup w _

theorem drawing_treatEach (setup : Setup σ) (verdicts : List (Workspace × Verdict))
    (s : Supervisor σ) : (s.treatEach setup verdicts).2.assigner.drawing = s.assigner.drawing := by
  induction verdicts generalizing s with
  | nil => rfl
  | cons verdict rest ih =>
    obtain ⟨w, v⟩ := verdict
    have hone := drawing_treat setup w v s
    unfold treatEach
    cases htreat : s.treat setup w v with
    | mk goesOn m =>
      rw [htreat] at hone
      cases goesOn with
      | true => exact (ih m).trans hone
      | false => exact hone

/-- The range of ports and the number of attempts are settled for good. -/
theorem drawing_of_apply {e : Event σ} (h : e.apply setup s = some t) :
    t.assigner.drawing = s.assigner.drawing := by
  cases e with
  | start ws => obtain rfl := Option.some.inj h; exact drawing_start setup ws s
  | reset w => obtain rfl := Option.some.inj h; exact drawing_reset setup w s
  | recheck probe => obtain rfl := Option.some.inj h; exact drawing_treatEach setup _ _
  | sessionEnded session ending =>
    obtain ⟨-, h⟩ := Option.ite_none_right_eq_some.mp h
    obtain rfl := Option.some.inj h
    unfold sessionEnded
    dsimp only
    split <;> rfl
  | beginLoop =>
    obtain rfl := Option.some.inj h
    unfold beginLoop
    split <;> rfl
  | receiveSignal => obtain ⟨signal, -, -, rfl⟩ := of_receiveSignal h; rfl
  | takeSnapshot => obtain ⟨-, rfl⟩ := of_takeSnapshot h; rfl
  | collectVerdicts probe => obtain ⟨ws, -, rfl⟩ := of_collectVerdicts h; rfl
  | treatNext =>
    obtain ⟨-, rfl⟩ | ⟨w, v, rest, -, ⟨-, rfl⟩ | ⟨-, rfl⟩⟩ := of_treatNext h
    · rfl
    · exact drawing_treat setup w v s
    · exact drawing_treat setup w v s
  | stopLoop => obtain ⟨-, -, rfl⟩ := of_stopLoop h; rfl
  | _ => obtain rfl := Option.some.inj h; rfl

/-! ## What is never undone -/

/-- Nothing is received before there is a health loop. -/
theorem Turn.receivedSignals_eq {entries : List Happening} (hturn : Turn s t entries)
    (hhistory : t.history = s.history ++ entries) (hidle : s.healthLoop = .idle) :
    t.receivedSignals = s.receivedSignals := by
  suffices hnone : entries.filterMap Happening.received? = [] by
    rw [receivedSignals, hhistory, List.filterMap_append, hnone, List.append_nil, receivedSignals]
  cases hturn with
  | call hentries hmailbox hloop => exact (signals_of_not_ofLoop hentries).2
  | report signal hmailbox hloop => rfl
  | begin hwas => rfl
  | receive signal hwas => cases hidle.symm.trans hwas
  | snapshot hwas => cases hidle.symm.trans hwas
  | probe ws verdicts hwas => cases hidle.symm.trans hwas
  | treat verdicts rest hentries hwas => cases hidle.symm.trans hwas
  | finish hwas => cases hidle.symm.trans hwas
  | stop hwas => cases hidle.symm.trans hwas

/-- What a supervisor has reached is never undone. -/
structure Persists (s t : Supervisor σ) : Prop where
  sound : t.Sound
  drawing : t.assigner.drawing = s.assigner.drawing
  stopping : s.isStopping = true → t.isStopping = true
  ended : s.healthLoop = .ended → t.healthLoop = .ended
  begun : s.healthLoop ≠ .idle → t.healthLoop ≠ .idle
  unheard : s.healthLoop = .idle → t.receivedSignals = s.receivedSignals

namespace Persists

theorem idle_of_idle (hst : Persists s t) (hidle : t.healthLoop = .idle) :
    s.healthLoop = .idle :=
  by_contra fun hbegun => hst.begun hbegun hidle

theorem trans (hst : Persists s t) (htu : Persists t u) (hidle : s.healthLoop = .idle →
    t.healthLoop = .idle) : Persists s u where
  sound := htu.sound
  drawing := htu.drawing.trans hst.drawing
  stopping h := htu.stopping (hst.stopping h)
  ended h := htu.ended (hst.ended h)
  begun h := htu.begun (hst.begun h)
  unheard h := (htu.unheard (hidle h)).trans (hst.unheard h)

theorem note (hs : s.Sound) (lines : List LogLine) : Persists s (s.note lines) where
  sound := hs.note lines
  drawing := rfl
  stopping h := h
  ended h := h
  begun h := h
  unheard _ := rfl

theorem refl (hs : s.Sound) : Persists s s where
  sound := hs
  drawing := rfl
  stopping h := h
  ended h := h
  begun h := h
  unheard _ := rfl

theorem of_apply (setup : Setup σ) (hs : s.Sound) {e : Event σ} (h : e.apply setup s = some t) :
    Persists s t := by
  have hmoves := moves_of_apply h
  obtain ⟨entries, hhistory, hturn⟩ := Turns.of_apply hs h
  exact
    { sound := by
        clear h hhistory hturn
        induction hmoves with
        | refl => exact hs
        | tail _ hmove ih => exact ih.of_move hmove
      drawing := drawing_of_apply h
      stopping := hmoves.isStopping
      ended := hturn.ended
      begun := hturn.begun
      unheard := hturn.receivedSignals_eq hhistory }

end Persists

/-- A supervisor that can draw ports answers every start. -/
theorem Sound.isSome_start (setup : Setup σ) (hs : s.Sound)
    (hrange : s.assigner.drawing.range.size ≠ 0) (ws : List Workspace) :
    (s.start setup ws).1.isSome = true := by
  cases hstop : s.isStopping with
  | true => rw [start_of_stopping setup ws hstop, Option.isSome_some]
  | false =>
    have hready := hs.setAside_gained setup ws
    obtain ⟨-, opened, hcount, -⟩ := hready.sound.startEach_gained setup
      (hready.stopping.trans hstop) (hready.drawing ▸ hrange) ws
    rw [start_eq_startEach, hcount, Option.isSome_some]

/-- Every row of a supervisor that is shut down is closed. -/
theorem closed_of_stopping (hstop : s.isStopping = true) {row : TunnelStatus}
    (hrow : row ∈ s.registry.status) : row.isOpen = false := by
  obtain ⟨l, h, -, rfl⟩ := Registry.mem_status.mp hrow
  change (!h.isClosed s.registry.tokens) = false
  rw [Handle.isClosed, isCancelled_of_stopping hstop, Bool.or_true, Bool.not_true]

/-- A call becomes the health loop of a supervisor that has none, and is refused otherwise. -/
theorem beginLoop_cases (s : Supervisor σ) :
    (s.healthLoop = .idle ∧ s.beginLoop = (true, { s with healthLoop := .listening })) ∨
      (s.healthLoop ≠ .idle ∧ ∃ lines, s.beginLoop = (false, s.note lines)) := by
  unfold beginLoop
  split
  · next hidle => exact .inl ⟨hidle, rfl⟩
  · next hbegun => exact .inr ⟨hbegun, _, rfl⟩

/-- An event makes a call the health loop if and only if there was none, and now there is. -/
theorem takesLoop_cases {e : Event σ} (h : e.apply setup s = some t) :
    (OperationEvent.takesLoop e s = true ∧ s.healthLoop = .idle ∧ t.healthLoop ≠ .idle) ∨
      (OperationEvent.takesLoop e s = false ∧ (s.healthLoop = .idle → t.healthLoop = .idle)) := by
  have hdeeds : Deeds s t → (s.healthLoop = .idle → t.healthLoop = .idle) := by
    intro hdeeds hidle
    obtain ⟨-, hloop, -⟩ := hdeeds.frame
    exact hloop.trans hidle
  cases e with
  | beginLoop =>
    obtain rfl := Option.some.inj h
    change s.beginLoop.1 = true ∧ _ ∨ s.beginLoop.1 = false ∧ _
    obtain ⟨hidle, hbegin⟩ | ⟨-, lines, hbegin⟩ := s.beginLoop_cases
    · rw [hbegin]
      exact .inl ⟨rfl, hidle, nofun⟩
    · rw [hbegin]
      exact .inr ⟨rfl, fun hidle => hidle⟩
  | start ws => obtain rfl := Option.some.inj h; exact .inr ⟨rfl, hdeeds (start_deeds setup ws s)⟩
  | reset w => obtain rfl := Option.some.inj h; exact .inr ⟨rfl, hdeeds (reset_deeds setup w s)⟩
  | recheck probe =>
    obtain rfl := Option.some.inj h
    exact .inr ⟨rfl, hdeeds (recheck_deeds setup probe s)⟩
  | sessionEnded x ending =>
    obtain ⟨-, h⟩ := Option.ite_none_right_eq_some.mp h
    obtain rfl := Option.some.inj h
    exact .inr ⟨rfl, fun hidle => (healthLoop_sessionEnded s x ending).trans hidle⟩
  | receiveSignal =>
    obtain ⟨signal, hwas, -⟩ := of_receiveSignal h
    exact .inr ⟨rfl, fun hidle => by cases hidle.symm.trans hwas⟩
  | takeSnapshot =>
    obtain ⟨hwas, -⟩ := of_takeSnapshot h
    exact .inr ⟨rfl, fun hidle => by cases hidle.symm.trans hwas⟩
  | collectVerdicts probe =>
    obtain ⟨ws, hwas, -⟩ := of_collectVerdicts h
    exact .inr ⟨rfl, fun hidle => by cases hidle.symm.trans hwas⟩
  | treatNext =>
    refine .inr ⟨rfl, fun hidle => ?_⟩
    obtain ⟨hwas, -⟩ | ⟨w, v, rest, hwas, -⟩ := of_treatNext h
    · cases hidle.symm.trans hwas
    · cases hidle.symm.trans hwas
  | stopLoop =>
    obtain ⟨hwas, -⟩ := of_stopLoop h
    exact .inr ⟨rfl, fun hidle => by cases hidle.symm.trans hwas⟩
  | _ => obtain rfl := Option.some.inj h; exact .inr ⟨rfl, fun hidle => hidle⟩

end Supervisor

namespace Run

variable {σ : Type} {setup : Setup σ} {s t : Supervisor σ} {r : Run} {stopped stopped' : Prop}

/-! ## Where a run stands -/

/-- The run found a key, and there is something for it to do. -/
structure HasWork (r : Run) : Prop where
  key : ∃ p, r.credentials = .ok p
  workspaces : r.workspaces ≠ []

theorem HasWork.credentials_ne (h : r.HasWork) (e : CredentialError) :
    r.credentials ≠ .error e := by
  obtain ⟨p, hkey⟩ := h.key
  rw [hkey]
  exact nofun

/-- Where a run stands on a supervisor, given whether the stop signal has come to it. -/
inductive Stands (s : Supervisor σ) (stopped : Prop) (r : Run) : Prop
  | failed (e : CredentialError) (hkey : r.credentials = .error e)
      (hphase : r.phase = .done (.error (.preflight e)))
  | spared (p : Path) (hkey : r.credentials = .ok p) (hnone : r.workspaces = [])
      (hphase : r.phase = .done (.ok ()))
  | waiting (hwork : r.HasWork) (hphase : r.phase = .waiting)
  | draining (deadline : Duration) (hwork : r.HasWork) (hstopped : stopped)
      (hstopping : s.isStopping = true) (hphase : r.phase = .draining deadline)
  | joining (hwork : r.HasWork) (hstopped : stopped) (hstopping : s.isStopping = true)
      (hphase : r.phase = .joining)
  | complete (hwork : r.HasWork) (hstopped : stopped) (hstopping : s.isStopping = true)
      (hloop : r.loopCall = .returned ∨ r.loopCall = .looping ∧ s.healthLoop = .ended)
      (hphase : r.phase = .done (.ok ()))

/-- A run stands where it stands until it goes on itself. -/
theorem Stands.persists (h : r.Stands s stopped) (hst : s.Persists t)
    (hstopped : stopped → stopped') : r.Stands t stopped' := by
  cases h with
  | failed e hkey hphase => exact .failed e hkey hphase
  | spared p hkey hnone hphase => exact .spared p hkey hnone hphase
  | waiting hwork hphase => exact .waiting hwork hphase
  | draining deadline hwork hstop hstopping hphase =>
    exact .draining deadline hwork (hstopped hstop) (hst.stopping hstopping) hphase
  | joining hwork hstop hstopping hphase =>
    exact .joining hwork (hstopped hstop) (hst.stopping hstopping) hphase
  | complete hwork hstop hstopping hloop hphase =>
    refine .complete hwork (hstopped hstop) (hst.stopping hstopping) ?_ hphase
    exact hloop.imp_right fun h => ⟨h.1, hst.ended h.2⟩

/-- That its call of the health loop begins does not change where a run stands. -/
theorem Stands.called (h : r.Stands s stopped) (hcall : r.loopCall = .pending)
    (loopCall : LoopCall) : { r with loopCall }.Stands s stopped := by
  cases h with
  | failed e hkey hphase => exact .failed e hkey hphase
  | spared p hkey hnone hphase => exact .spared p hkey hnone hphase
  | waiting hwork hphase => exact .waiting ⟨hwork.key, hwork.workspaces⟩ hphase
  | draining deadline hwork hstop hstopping hphase =>
    exact .draining deadline ⟨hwork.key, hwork.workspaces⟩ hstop hstopping hphase
  | joining hwork hstop hstopping hphase =>
    exact .joining ⟨hwork.key, hwork.workspaces⟩ hstop hstopping hphase
  | complete hwork hstop hstopping hloop hphase =>
    rw [hcall] at hloop
    simp at hloop

/-- A run that is not over has something to do, and it waits for the stop signal or for the
end of what it has shut down. -/
theorem Stands.of_not_over (h : r.Stands s stopped) (hover : r.isOver = false) :
    r.HasWork ∧ (r.phase = .waiting ∨ stopped ∧ s.isStopping = true ∧
      ((∃ deadline, r.phase = .draining deadline) ∨ r.phase = .joining)) := by
  cases h with
  | failed e hkey hphase => simp [isOver, hphase] at hover
  | spared p hkey hnone hphase => simp [isOver, hphase] at hover
  | waiting hwork hphase => exact ⟨hwork, .inl hphase⟩
  | draining deadline hwork hstop hstopping hphase =>
    exact ⟨hwork, .inr ⟨hstop, hstopping, .inl ⟨deadline, hphase⟩⟩⟩
  | joining hwork hstop hstopping hphase =>
    exact ⟨hwork, .inr ⟨hstop, hstopping, .inr hphase⟩⟩
  | complete hwork hstop hstopping hloop hphase => simp [isOver, hphase] at hover

/-- A run fails if and only if it found no key. -/
theorem Stands.failed_iff (h : r.Stands s stopped) (e : CredentialError) :
    r.phase = .done (.error (.preflight e)) ↔ r.credentials = .error e := by
  cases h with
  | failed e' hkey hphase => simp [hkey, hphase]
  | spared p hkey hnone hphase => simp [hkey, hphase]
  | waiting hwork hphase => simp [hwork.credentials_ne, hphase]
  | draining deadline hwork hstop hstopping hphase => simp [hwork.credentials_ne, hphase]
  | joining hwork hstop hstopping hphase => simp [hwork.credentials_ne, hphase]
  | complete hwork hstop hstopping hloop hphase => simp [hwork.credentials_ne, hphase]

/-- A run with something to do that has come to a good end was stopped, and what it started
is over. -/
theorem Stands.of_complete (h : r.Stands s stopped) (hphase : r.phase = .done (.ok ()))
    (hwork : r.workspaces ≠ []) : stopped ∧ s.isStopping = true ∧
      (r.loopCall = .returned ∨ r.loopCall = .looping ∧ s.healthLoop = .ended) := by
  cases h with
  | failed e hkey hother => cases hphase.symm.trans hother
  | spared p hkey hnone hother => exact absurd hnone hwork
  | waiting _ hother => cases hphase.symm.trans hother
  | draining deadline _ hstop hstopping hother => cases hphase.symm.trans hother
  | joining _ hstop hstopping hother => cases hphase.symm.trans hother
  | complete _ hstop hstopping hloop hother => exact ⟨hstop, hstopping, hloop⟩

/-- No run is cut short. -/
theorem Stands.not_aborted (h : r.Stands s stopped) : r.phase ≠ .aborted := by
  intro haborted
  cases h with
  | failed e hkey hphase => cases hphase.symm.trans haborted
  | spared p hkey hnone hphase => cases hphase.symm.trans haborted
  | waiting hwork hphase => cases hphase.symm.trans haborted
  | draining deadline hwork hstop hstopping hphase => cases hphase.symm.trans haborted
  | joining hwork hstop hstopping hphase => cases hphase.symm.trans haborted
  | complete hwork hstop hstopping hloop hphase => cases hphase.symm.trans haborted

/-- A run that begins fails for want of a key, or has nothing to do, or has started its tunnels
and waits. Only then has it touched the supervisor. -/
theorem begin_cases (setup : Setup σ) (hs : s.Sound)
    (hrange : s.assigner.drawing.range.size ≠ 0) (credentials : Except CredentialError Path)
    (ws : List Workspace) :
    let r : Run := { credentials, workspaces := ws }
    (∃ e, credentials = .error e ∧
      r.begin setup s = ({ r with phase := .done (.error (.preflight e)) }, s)) ∨
    ∃ p, credentials = .ok p ∧
      (ws = [] ∧ r.begin setup s = ({ r with phase := .done (.ok ()) }, s) ∨
        ws ≠ [] ∧ r.begin setup s = ({ r with phase := .waiting }, (s.start setup ws).2)) := by
  intro r
  cases credentials with
  | error e => exact .inl ⟨e, rfl, rfl⟩
  | ok p =>
    refine .inr ⟨p, rfl, ?_⟩
    cases ws with
    | nil => exact .inl ⟨rfl, rfl⟩
    | cons w ws =>
      refine .inr ⟨List.cons_ne_nil w ws, ?_⟩
      have hanswer := hs.isSome_start setup hrange (w :: ws)
      unfold begin
      cases hstart : s.start setup (w :: ws) with
      | mk count t =>
        rw [hstart] at hanswer
        cases count with
        | some n => simp [r]
        | none => cases hanswer

/-- Only a run that waits for its sessions can stop waiting for them. -/
theorem draining_of_canFinishDrain {r : Run} {now : Duration}
    (h : r.canFinishDrain now s = true) : ∃ deadline, r.phase = .draining deadline := by
  unfold canFinishDrain at h
  split at h
  · next deadline hphase => exact ⟨deadline, hphase⟩
  · cases h

/-- Only a run that waits for its own call of the health loop can be complete. -/
theorem joining_of_canJoin {r : Run} (h : r.canJoin s = true) : r.phase = .joining ∧
    (r.loopCall = .returned ∨ r.loopCall = .looping ∧ s.healthLoop = .ended) := by
  unfold canJoin at h
  split at h
  · next hphase hcall => exact ⟨hphase, .inl hcall⟩
  · next hphase hcall => exact ⟨hphase, .inr ⟨hcall, eq_of_beq h⟩⟩
  · cases h

theorem note_noteDrain (setup : Setup σ) (s : Supervisor σ) (lines : List LogLine) :
    ∃ lines', (s.noteDrain setup).note lines = s.note lines' := by
  unfold Supervisor.noteDrain
  split
  · exact ⟨lines, rfl⟩
  · exact ⟨_, congrArg (fun logs => { s with logs }) (List.append_assoc _ _ _)⟩

/-- At the end of the wait for its sessions a run logs something at most. -/
theorem finishDrain_eq (setup : Setup σ) (r : Run) (s : Supervisor σ) :
    ∃ lines, r.finishDrain setup s = ({ r with phase := .joining }, s.note lines) := by
  unfold finishDrain
  dsimp only
  split
  · exact ⟨[], by rw [Supervisor.note, List.append_nil]⟩
  · obtain ⟨lines, hlines⟩ := note_noteDrain setup s
      [⟨.warn, .run, "Exiting with tunnel tasks still running"⟩]
    exact ⟨lines, by rw [hlines]⟩

/-- A run that is stopped shuts the supervisor down. -/
theorem stop_eq (setup : Setup σ) (now : Duration) (r : Run) (s : Supervisor σ) :
    ∃ phase lines, r.stop setup now s = ({ r with phase }, s.shutdown.2.note lines) ∧
      (phase = .joining ∨ phase = .draining (setup.deadline now)) := by
  unfold stop
  dsimp only
  split
  · obtain ⟨lines, hfinish⟩ := r.finishDrain_eq setup s.shutdown.2
    exact ⟨.joining, lines, hfinish, .inl rfl⟩
  · exact ⟨_, [], by rw [Supervisor.note, List.append_nil], .inr rfl⟩

end Run

namespace Operation

variable {σ : Type} {setup : Setup σ} {past : List (OperationEvent σ)} {o o' : Operation σ}
  {t : Supervisor σ} {r r' : Run} {i : Nat}

/-! ## Operations in order -/

/-- Every run stands where it may, and one call at most became the health loop. -/
structure Orderly (past : List (OperationEvent σ)) (o : Operation σ) : Prop where
  sound : o.supervisor.Sound
  range : o.supervisor.assigner.drawing.range.size ≠ 0
  unheard : o.supervisor.healthLoop = .idle → o.supervisor.receivedSignals = []
  idle : o.loops = [] ↔ o.supervisor.healthLoop = .idle
  one : o.loops.length ≤ 1
  /-- Only runs that have begun can have called the health loop. -/
  known : ∀ {i : Nat}, some i ∈ o.loops → i < o.runs.length
  looping : ∀ {i : Nat} {r : Run}, o.runs[i]? = some r →
    (r.loopCall = .looping ↔ some i ∈ o.loops)
  stands : ∀ {i : Nat} {r : Run}, o.runs[i]? = some r → r.Stands o.supervisor (.stop i ∈ past)

/-- What an event does to the callers of the health loop: nothing, or the first of them is there. -/
def LoopTaken (caller : Option Nat) (o o' : Operation σ) : Prop :=
  (o'.loops = o.loops ∧ (o.supervisor.healthLoop = .idle → o'.supervisor.healthLoop = .idle)) ∨
    (o'.loops = o.loops ++ [caller] ∧ o.supervisor.healthLoop = .idle ∧
      o'.supervisor.healthLoop ≠ .idle)

namespace Orderly

/-- What became of the supervisor, the runs and the callers of the health loop is in order if
each of them is. -/
theorem next (h : Orderly past o) (e : OperationEvent σ) {caller : Option Nat}
    (hst : o.supervisor.Persists o'.supervisor) (htaken : LoopTaken caller o o')
    (hknown : ∀ {i : Nat}, some i ∈ o'.loops → i < o'.runs.length)
    (hlooping : ∀ {i : Nat} {r : Run}, o'.runs[i]? = some r →
      (r.loopCall = .looping ↔ some i ∈ o'.loops))
    (hstands : ∀ {i : Nat} {r : Run}, o'.runs[i]? = some r →
      r.Stands o'.supervisor (.stop i ∈ past ++ [e])) :
    Orderly (past ++ [e]) o' where
  sound := hst.sound
  range := hst.drawing ▸ h.range
  unheard hidle := by
    have hbefore := hst.idle_of_idle hidle
    exact (hst.unheard hbefore).trans (h.unheard hbefore)
  idle := by
    obtain ⟨hloops, hidle⟩ | ⟨hloops, -, hbegun⟩ := htaken
    · rw [hloops, h.idle]
      exact ⟨hidle, hst.idle_of_idle⟩
    · rw [hloops]
      exact ⟨fun hnone => by simp at hnone, fun hidle => absurd hidle hbegun⟩
  one := by
    obtain ⟨hloops, -⟩ | ⟨hloops, hidle, -⟩ := htaken
    · rw [hloops]
      exact h.one
    · rw [hloops, h.idle.mpr hidle]
      exact le_rfl
  known := hknown
  looping := hlooping
  stands := hstands

/-- Something happens to the supervisor beside its runs. -/
theorem beside (h : Orderly past o) (e : OperationEvent σ) (hruns : o'.runs = o.runs)
    (hst : o.supervisor.Persists o'.supervisor) (htaken : LoopTaken none o o') :
    Orderly (past ++ [e]) o' := by
  have hmem : ∀ i, some i ∈ o'.loops ↔ some i ∈ o.loops := by
    intro i
    obtain ⟨hloops, -⟩ | ⟨hloops, -⟩ := htaken
    · rw [hloops]
    · rw [hloops]
      simp
  refine h.next e hst htaken (fun {i} hi => ?_) (fun {i r} hr => ?_) fun {i r} hr => ?_
  · rw [hruns]
    exact h.known ((hmem i).mp hi)
  · rw [hmem]
    exact h.looping (hruns ▸ hr)
  · exact (h.stands (hruns ▸ hr)).persists hst (List.mem_append_left _)

/-- One more run begins. -/
theorem begins (h : Orderly past o) (e : OperationEvent σ) (hruns : o'.runs = o.runs ++ [r'])
    (hloops : o'.loops = o.loops) (hst : o.supervisor.Persists o'.supervisor)
    (hidle : o'.supervisor.healthLoop = o.supervisor.healthLoop) (hcall : r'.loopCall = .pending)
    (hstands : ∀ stopped : Prop, r'.Stands o'.supervisor stopped) : Orderly (past ++ [e]) o' := by
  have hold : ∀ {i r}, o'.runs[i]? = some r → o.runs[i]? = some r ∨ i = o.runs.length ∧ r = r' := by
    intro i r hr
    rw [hruns, List.getElem?_append] at hr
    split at hr
    · exact .inl hr
    · next hle =>
      rw [List.getElem?_singleton] at hr
      obtain ⟨hzero, hsame⟩ := Option.ite_none_right_eq_some.mp hr
      exact .inr ⟨by omega, (Option.some.inj hsame).symm⟩
  refine h.next e hst (.inl ⟨hloops, fun h => hidle.trans h⟩ : LoopTaken none o o')
    (fun {i} hi => ?_) (fun {i r} hr => ?_) fun {i r} hr => ?_
  · rw [hruns, List.length_append]
    exact Nat.lt_add_right _ (h.known (hloops ▸ hi))
  · rw [hloops]
    obtain hr | ⟨rfl, rfl⟩ := hold hr
    · exact h.looping hr
    · rw [hcall]
      exact ⟨nofun, fun hi => absurd (h.known hi) (Nat.lt_irrefl _)⟩
  · obtain hr | ⟨-, rfl⟩ := hold hr
    · exact (h.stands hr).persists hst (List.mem_append_left _)
    · exact hstands _

/-- One of the runs goes on. -/
theorem goesOn (h : Orderly past o) (e : OperationEvent σ) (hr : o.runs[i]? = some r)
    (hruns : o'.runs = o.runs.set i r') (hst : o.supervisor.Persists o'.supervisor)
    (htaken : LoopTaken (some i) o o')
    (hcall : r'.loopCall = .looping ↔ r.loopCall = .looping ∨ o'.loops ≠ o.loops)
    (hstands : r'.Stands o'.supervisor (.stop i ∈ past ++ [e])) : Orderly (past ++ [e]) o' := by
  have hlt : i < o.runs.length := (List.getElem?_eq_some_iff.mp hr).1
  have hcases : ∀ {j x}, o'.runs[j]? = some x →
      (j = i ∧ x = r') ∨ (j ≠ i ∧ o.runs[j]? = some x) := by
    intro j x hx
    rw [hruns, List.getElem?_set] at hx
    split at hx
    · next heq =>
      exact .inl ⟨heq.symm, (Option.some.inj hx).symm⟩
    · next hne => exact .inr ⟨fun heq => hne heq.symm, hx⟩
  have hmem : ∀ j, some j ∈ o'.loops ↔ some j ∈ o.loops ∨ j = i ∧ o'.loops ≠ o.loops := by
    intro j
    obtain ⟨hloops, -⟩ | ⟨hloops, -⟩ := htaken
    · simp [hloops]
    · simp [hloops]
  refine h.next e hst htaken (fun {j} hj => ?_) (fun {j x} hx => ?_) fun {j x} hx => ?_
  · rw [hruns, List.length_set]
    obtain hold | ⟨rfl, -⟩ := (hmem j).mp hj
    · exact h.known hold
    · exact hlt
  · rw [hmem]
    obtain ⟨rfl, rfl⟩ | ⟨hne, hx⟩ := hcases hx
    · rw [hcall, h.looping hr]
      simp
    · rw [h.looping hx]
      simp [hne]
  · obtain ⟨rfl, rfl⟩ | ⟨-, hx⟩ := hcases hx
    · exact hstands
    · exact (h.stands hx).persists hst (List.mem_append_left _)

end Orderly

/-- A run that does something is one that can. -/
theorem of_goOn {can : Run → Bool} {f : Run → Supervisor σ → Run × Supervisor σ}
    (h : o.goOn i can f = some o') :
    ∃ r, o.runs[i]? = some r ∧ can r = true ∧
      o' = { o with supervisor := (f r o.supervisor).2
                    runs := o.runs.set i (f r o.supervisor).1 } := by
  unfold goOn at h
  split at h
  · next r hr =>
    obtain ⟨hcan, h⟩ := Option.ite_none_right_eq_some.mp h
    exact ⟨r, hr, hcan, (Option.some.inj h).symm⟩
  · cases h

/-- A run that can do something does it. -/
theorem goOn_eq {can : Run → Bool} {f : Run → Supervisor σ → Run × Supervisor σ}
    (hr : o.runs[i]? = some r) (hcan : can r = true) :
    o.goOn i can f = some { o with supervisor := (f r o.supervisor).2
                                   runs := o.runs.set i (f r o.supervisor).1 } := by
  rw [goOn, hr]
  exact if_pos hcan

/-! ## What each event of a run does -/

/-- A run fails or succeeds at once, or it has started its tunnels and waits. -/
theorem apply_run (setup : Setup σ) (credentials : Except CredentialError Path)
    (ws : List Workspace) (o : Operation σ) :
    (OperationEvent.run credentials ws).apply setup o =
      let begun := Run.begin setup { credentials, workspaces := ws } o.supervisor
      some { o with supervisor := begun.2, runs := o.runs ++ [begun.1] } := rfl

/-- A run calls the health loop once, and before it is complete. -/
theorem of_callLoop (h : (OperationEvent.callLoop i).apply setup o = some o') :
    ∃ r, o.runs[i]? = some r ∧ r.loopCall = .pending ∧
      (r.phase = .waiting ∨ (∃ deadline, r.phase = .draining deadline) ∨ r.phase = .joining) ∧
      ((o.supervisor.healthLoop = .idle ∧
          o' = { o with
            supervisor := o.supervisor.beginLoop.2
            runs := o.runs.set i { r with loopCall := .looping }
            loops := o.loops ++ [some i] }) ∨
        (o.supervisor.healthLoop ≠ .idle ∧
          o' = { o with
            supervisor := o.supervisor.beginLoop.2
            runs := o.runs.set i { r with loopCall := .returned } })) := by
  obtain ⟨m, hm, rfl⟩ := Option.map_eq_some_iff.mp h
  obtain ⟨r, hr, hcan, rfl⟩ := of_goOn hm
  have hphase : r.loopCall = .pending ∧
      (r.phase = .waiting ∨ (∃ deadline, r.phase = .draining deadline) ∨ r.phase = .joining) := by
    unfold Run.canCallLoop at hcan
    split at hcan
    · next hphase => exact ⟨eq_of_beq hcan, .inl hphase⟩
    · next deadline hphase => exact ⟨eq_of_beq hcan, .inr (.inl ⟨deadline, hphase⟩)⟩
    · next hphase => exact ⟨eq_of_beq hcan, .inr (.inr hphase)⟩
    · cases hcan
  refine ⟨r, hr, hphase.1, hphase.2, ?_⟩
  unfold Run.callLoop enlist
  obtain ⟨hidle, hbegin⟩ | ⟨hbegun, lines, hbegin⟩ := o.supervisor.beginLoop_cases
  · rw [hbegin]
    exact .inl ⟨hidle, rfl⟩
  · rw [hbegin]
    exact .inr ⟨hbegun, rfl⟩

/-- The stop signal comes to a run that waits for it. -/
theorem of_stop (h : (OperationEvent.stop i).apply setup o = some o') :
    ∃ r phase lines, o.runs[i]? = some r ∧ r.phase = .waiting ∧
      (phase = .joining ∨ phase = .draining (setup.deadline o.now)) ∧
      o' = { o with
        supervisor := o.supervisor.shutdown.2.note lines
        runs := o.runs.set i { r with phase } } := by
  obtain ⟨r, hr, hwaiting, rfl⟩ := of_goOn (f := Run.stop setup o.now) h
  obtain ⟨phase, lines, hstop, hnext⟩ := r.stop_eq setup o.now o.supervisor
  refine ⟨r, phase, lines, hr, ?_, hnext, by rw [hstop]⟩
  unfold Run.isWaiting at hwaiting
  split at hwaiting
  · next hphase => exact hphase
  · cases hwaiting

/-- A run no longer waits for the sessions. -/
theorem of_finishDrain (h : (OperationEvent.finishDrain i).apply setup o = some o') :
    ∃ r deadline lines, o.runs[i]? = some r ∧ r.phase = .draining deadline ∧
      o' = { o with
        supervisor := o.supervisor.note lines
        runs := o.runs.set i { r with phase := .joining } } := by
  obtain ⟨r, hr, hcan, rfl⟩ := of_goOn (f := Run.finishDrain setup) h
  obtain ⟨lines, hfinish⟩ := r.finishDrain_eq setup o.supervisor
  obtain ⟨deadline, hphase⟩ := Run.draining_of_canFinishDrain hcan
  exact ⟨r, deadline, lines, hr, hphase, by rw [hfinish]⟩

/-- A run is complete once its own call of the health loop has come back. -/
theorem of_join (h : (OperationEvent.join i).apply setup o = some o') :
    ∃ r, o.runs[i]? = some r ∧ r.phase = .joining ∧
      (r.loopCall = .returned ∨ r.loopCall = .looping ∧ o.supervisor.healthLoop = .ended) ∧
      o' = { o with runs := o.runs.set i r.join } := by
  obtain ⟨r, hr, hcan, rfl⟩ := of_goOn (f := fun r s => (r.join, s)) h
  obtain ⟨hphase, hcall⟩ := Run.joining_of_canJoin hcan
  exact ⟨r, hr, hphase, hcall, rfl⟩

/-- Every event keeps an operation in order. -/
theorem Orderly.of_apply (h : Orderly past o) {e : OperationEvent σ}
    (he : e.apply setup o = some o') : Orderly (past ++ [e]) o' := by
  cases e with
  | supervisor e =>
    obtain ⟨t, ht, rfl⟩ := Option.map_eq_some_iff.mp he
    refine h.beside _ rfl (.of_apply setup h.sound ht) ?_
    obtain ⟨htakes, hidle, hbegun⟩ | ⟨hnot, hidle⟩ := Supervisor.takesLoop_cases ht
    · exact .inr ⟨by rw [htakes]; rfl, hidle, hbegun⟩
    · exact .inl ⟨by rw [hnot]; rfl, hidle⟩
  | run credentials ws =>
    rw [apply_run] at he
    obtain rfl := Option.some.inj he
    obtain ⟨e, hkey, hbegin⟩ | ⟨p, hkey, ⟨hnone, hbegin⟩ | ⟨hsome, hbegin⟩⟩ :=
      Run.begin_cases setup h.sound h.range credentials ws
    all_goals rw [hbegin]
    · exact h.begins _ rfl rfl (.refl h.sound) rfl rfl fun _ => .failed e hkey rfl
    · exact h.begins _ rfl rfl (.refl h.sound) rfl rfl fun _ => .spared p hkey hnone rfl
    · obtain ⟨-, hloop, -⟩ := (Supervisor.start_deeds setup ws o.supervisor).frame
      have hst := Supervisor.Persists.of_apply setup h.sound (e := .start ws) rfl
      exact h.begins _ rfl rfl hst hloop rfl fun _ => .waiting ⟨⟨p, hkey⟩, hsome⟩ rfl
  | callLoop i =>
    obtain ⟨r, hr, hcall, -, ⟨hidle, rfl⟩ | ⟨hbegun, rfl⟩⟩ := of_callLoop he
    all_goals
      have hst := Supervisor.Persists.of_apply setup h.sound (e := .beginLoop) rfl
      have hstands := ((h.stands hr).persists hst (List.mem_append_left [.callLoop i])).called hcall
    · refine h.goesOn _ hr rfl hst (.inr ⟨rfl, hidle, ?_⟩) (by simp) (hstands .looping)
      rw [Supervisor.beginLoop, hidle]
      exact nofun
    · refine h.goesOn _ hr rfl hst (.inl ⟨rfl, fun hidle => absurd hidle hbegun⟩) ?_
        (hstands .returned)
      simp [hcall]
  | stop i =>
    obtain ⟨r, phase, lines, hr, hphase, hnext, rfl⟩ := of_stop he
    have hdown := Supervisor.Persists.of_apply setup h.sound (e := .shutdown) rfl
    have hst := hdown.trans (.note hdown.sound lines) fun hidle => hidle
    have hstopping : (o.supervisor.shutdown.2.note lines).isStopping = true :=
      Registry.rootCancelled_closeAll _
    obtain ⟨⟨hkey, hwork⟩, -⟩ := (h.stands hr).of_not_over (by rw [Run.isOver, hphase])
    refine h.goesOn _ hr rfl hst (.inl ⟨rfl, fun hidle => hidle⟩) (by simp) ?_
    obtain rfl | rfl := hnext
    · exact .joining ⟨hkey, hwork⟩ (by simp) hstopping rfl
    · exact .draining _ ⟨hkey, hwork⟩ (by simp) hstopping rfl
  | finishDrain i =>
    obtain ⟨r, deadline, lines, hr, hphase, rfl⟩ := of_finishDrain he
    obtain ⟨⟨hkey, hwork⟩, hwaits | ⟨hstop, hstopping, -⟩⟩ :=
      (h.stands hr).of_not_over (by rw [Run.isOver, hphase])
    · cases hwaits.symm.trans hphase
    · refine h.goesOn _ hr rfl (.note h.sound lines) (.inl ⟨rfl, fun hidle => hidle⟩) (by simp) ?_
      exact .joining ⟨hkey, hwork⟩ (List.mem_append_left _ hstop) hstopping rfl
  | join i =>
    obtain ⟨r, hr, hphase, hloop, rfl⟩ := of_join he
    obtain ⟨⟨hkey, hwork⟩, hwaits | ⟨hstop, hstopping, -⟩⟩ :=
      (h.stands hr).of_not_over (by rw [Run.isOver, hphase])
    · cases hwaits.symm.trans hphase
    · refine h.goesOn _ hr rfl (.refl h.sound) (.inl ⟨rfl, fun hidle => hidle⟩) ?_ ?_
      · simp [Run.join]
      · exact .complete ⟨hkey, hwork⟩ (List.mem_append_left _ hstop) hstopping hloop rfl
  | timePasses d =>
    obtain rfl := Option.some.inj he
    exact h.beside _ rfl (.refl h.sound) (.inl ⟨rfl, fun hidle => hidle⟩)

/-- The first of some events happens first. -/
theorem applyAll_cons {e : OperationEvent σ} {events : List (OperationEvent σ)} :
    OperationEvent.applyAll setup (e :: events) o = some o' ↔
      ∃ m, e.apply setup o = some m ∧ OperationEvent.applyAll setup events m = some o' := by
  rw [OperationEvent.applyAll, List.foldlM_cons]
  exact Option.bind_eq_some_iff

/-- Whatever happens, an operation stays in order. -/
theorem Orderly.of_applyAll (h : Orderly past o) {events : List (OperationEvent σ)}
    (hevents : OperationEvent.applyAll setup events o = some o') : Orderly (past ++ events) o' := by
  induction events generalizing past o with
  | nil =>
    obtain rfl := Option.some.inj hevents
    rwa [List.append_nil]
  | cons e events ih =>
    obtain ⟨m, hm, hrest⟩ := applyAll_cons.mp hevents
    have hall := ih (h.of_apply hm) hrest
    rwa [List.append_assoc] at hall

/-- Nothing was received by a supervisor whose health loop nobody has called. -/
theorem receivedSignals_of_idle {s : Supervisor σ} (hs : s.Reachable setup)
    (hidle : s.healthLoop = .idle) : s.receivedSignals = [] := by
  induction hs with
  | fresh h =>
    obtain ⟨store, assigner, rfl⟩ := h
    rfl
  | @step s t e hs ht ih =>
    have hst := Supervisor.Persists.of_apply setup hs.sound ht
    have hbefore := hst.idle_of_idle hidle
    exact (hst.unheard hbefore).trans (ih hbefore)

/-- A supervisor on which no run has begun is in order. -/
theorem Orderly.on {s : Supervisor σ} (hs : s.Reachable setup)
    (hrange : s.assigner.drawing.range.size ≠ 0) : Orderly [] (Operation.on s) where
  sound := hs.sound
  range := hrange
  unheard := receivedSignals_of_idle hs
  idle := by
    unfold Operation.on
    split
    · next hidle => exact ⟨fun _ => hidle, fun _ => rfl⟩
    · next hbegun => exact ⟨nofun, fun hidle => absurd hidle hbegun⟩
  one := by
    unfold Operation.on
    split
    · exact Nat.zero_le _
    · exact le_rfl
  known {i} hi := by
    unfold Operation.on at hi
    split at hi <;> simp at hi
  looping hr := by cases hr
  stands hr := by cases hr

end Operation

end TunnelFleet
