import TunnelFleet.Supervision.Event
import TunnelFleet.Supervision.Run

/-!
# Runs on one supervisor

Any number of runs can begin on one supervisor, also while others wait, and whatever else
happens to a supervisor goes on meanwhile. An `Operation` keeps the supervisor together
with its runs, and notes whose calls became the health loop.
-/

namespace TunnelFleet

/-- A supervisor with the runs on it. -/
structure Operation (σ : Type) where
  supervisor : Supervisor σ
  /-- The runs in the order in which they began. -/
  runs : List Run := []
  /-- Whose calls became the health loop: the number of a run, or nothing for a caller
  outside of all runs. -/
  loops : List (Option Nat) := []
  now : Duration := ⟨0⟩

/-- Something that happens to a supervisor or to one of the runs on it. -/
inductive OperationEvent (σ : Type)
  /-- Something that no run does. -/
  | supervisor (e : Event σ)
  /-- A run begins. -/
  | run (credentials : Except CredentialError Path) (ws : List Workspace)
  /-- The call of the health loop that a run has left in the background begins. -/
  | callLoop (i : Nat)
  /-- The stop signal comes to a run. -/
  | stop (i : Nat)
  | finishDrain (i : Nat)
  | join (i : Nat)
  | timePasses (d : Duration)

namespace Run

/-- Whether a run has left a call of the health loop in the background that has not begun. -/
def canCallLoop (r : Run) : Bool :=
  match r.phase with
  | .waiting | .draining _ | .joining => r.loopCall == .pending
  | _ => false

end Run

namespace Operation

variable {σ : Type}

/-- A supervisor before the first run on it. If it has a health loop, somebody outside
has called it. -/
def on (s : Supervisor σ) : Operation σ :=
  { supervisor := s, loops := if s.healthLoop = .idle then [] else [none] }

/-- A call of the health loop has begun, and may have become it. -/
def enlist (caller : Option Nat) (became : Bool) (o : Operation σ) : Operation σ :=
  { o with loops := if became then o.loops ++ [caller] else o.loops }

/-- A run does something, if it is one that can. -/
def goOn (i : Nat) (can : Run → Bool) (f : Run → Supervisor σ → Run × Supervisor σ)
    (o : Operation σ) : Option (Operation σ) :=
  match o.runs[i]? with
  | some r =>
    if can r then
      let (r, supervisor) := f r o.supervisor
      some { o with supervisor, runs := o.runs.set i r }
    else none
  | none => none

end Operation

namespace OperationEvent

variable {σ : Type}

/-- Whether an event is a call from outside that becomes the health loop. -/
def takesLoop : Event σ → Supervisor σ → Bool
  | .beginLoop, s => s.beginLoop.1
  | _, _ => false

/-- What becomes of an operation with an event, if the event can happen in it. -/
def apply (setup : Setup σ) : OperationEvent σ → Operation σ → Option (Operation σ)
  | .supervisor e, o =>
    (e.apply setup o.supervisor).map fun s =>
      { o with supervisor := s }.enlist none (takesLoop e o.supervisor)
  | .run credentials ws, o =>
    let (r, s) := Run.begin setup { credentials, workspaces := ws } o.supervisor
    some { o with supervisor := s, runs := o.runs ++ [r] }
  | .callLoop i, o =>
    (o.goOn i Run.canCallLoop Run.callLoop).map (·.enlist (some i) o.supervisor.beginLoop.1)
  | .stop i, o => o.goOn i Run.isWaiting (Run.stop setup o.now)
  | .finishDrain i, o =>
    o.goOn i (Run.canFinishDrain o.now · o.supervisor) (Run.finishDrain setup)
  | .join i, o => o.goOn i (Run.canJoin · o.supervisor) fun r s => (r.join, s)
  | .timePasses d, o => some { o with now := ⟨o.now.nanoseconds + d.nanoseconds⟩ }

/-- What becomes of an operation with events one after the other, if they can happen like
this. -/
def applyAll (setup : Setup σ) (events : List (OperationEvent σ)) (o : Operation σ) :
    Option (Operation σ) :=
  events.foldlM (fun o e => e.apply setup o) o

end OperationEvent

end TunnelFleet
