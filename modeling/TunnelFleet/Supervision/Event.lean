import TunnelFleet.Supervision.Supervisor

/-!
# Runs of a supervisor

A supervisor lives through events: calls from outside, ends of sessions, steps of
the health loop, changes of the port store behind its back. `Event.apply` is what an
event does, if it can happen at all; `Reachable` holds of the states that any order
of events leads to.
-/

namespace TunnelFleet

/-- Something that happens to a supervisor. -/
inductive Event (σ : Type)
  | start (ws : List Workspace)
  | reset (w : Workspace)
  /-- A pass over all workspaces that somebody outside asks for. -/
  | recheck (probe : Workspace → Verdict)
  | report (signal : Signal)
  | sessionEnded (session : Session) (ending : Ending)
  | closeSession (l : LocalId) (session : Nat)
  | closeAll
  | resetRegistered (l : LocalId)
  | ensureBudget (l : LocalId) (attempts : Nat)
  | beginLoop
  | receiveSignal
  | takeSnapshot
  | collectVerdicts (probe : Workspace → Verdict)
  | treatNext
  | stopLoop
  | shutdown
  /-- The port store changes without the supervisor's doing. -/
  | storeChanged (store : σ)

namespace Event

variable {σ : Type}

/-- The state after an event, if the event can happen in this state. Only a session
that has not ended can end, and the health loop takes its steps in their order. -/
def apply (setup : Setup σ) : Event σ → Supervisor σ → Option (Supervisor σ)
  | .start ws, s => some (s.start setup ws).2
  | .reset w, s => some (s.reset setup w).2
  | .recheck probe, s => some (s.recheck setup probe).2
  | .report signal, s => some (s.report signal).2
  | .sessionEnded session ending, s =>
    if session ∈ s.tasks then some (s.sessionEnded session ending) else none
  | .closeSession l session, s => some { s with registry := (s.registry.closeSession l session).2 }
  | .closeAll, s => some { s with registry := s.registry.closeAll.2 }
  | .resetRegistered l, s => some (s.resetRegistered l).2
  | .ensureBudget l attempts, s => some (s.ensureBudget l attempts)
  | .beginLoop, s => some s.beginLoop.2
  | .receiveSignal, s => s.receiveSignal
  | .takeSnapshot, s => s.takeSnapshot
  | .collectVerdicts probe, s => s.collectVerdicts probe
  | .treatNext, s => s.treatNext setup
  | .stopLoop, s => s.stopLoop
  | .shutdown, s => some s.shutdown.2
  | .storeChanged store, s => some { s with store }

/-- The state after events one after the other, if they can happen like this. -/
def applyAll (setup : Setup σ) (events : List (Event σ)) (s : Supervisor σ) :
    Option (Supervisor σ) :=
  events.foldlM (fun s e => e.apply setup s) s

end Event

namespace Supervisor

variable {σ : Type}

/-- A supervisor that has done nothing yet. Its assigner may have been at work before, for the
aliases say. -/
def IsFresh (s : Supervisor σ) : Prop :=
  ∃ store assigner, s = { store, assigner }

/-- The states that a run can reach from a fresh supervisor. -/
inductive Reachable (setup : Setup σ) : Supervisor σ → Prop
  | fresh {s : Supervisor σ} (h : s.IsFresh) : Reachable setup s
  | step {s t : Supervisor σ} (e : Event σ) (hs : Reachable setup s)
      (ht : e.apply setup s = some t) : Reachable setup t

end Supervisor

end TunnelFleet
