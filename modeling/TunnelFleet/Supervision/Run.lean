import TunnelFleet.Supervision.Supervisor

/-!
# Running a supervisor until it is told to stop

A run checks that there is a private key, starts the tunnels and the health loop,
waits for the stop signal, shuts the supervisor down and waits for what it started.
Only the check for the key can make it fail.
-/

namespace TunnelFleet

/-- Why a run failed. -/
inductive RunError
  | preflight (e : CredentialError)
  deriving DecidableEq

/-- What the user is told. -/
def RunError.message : RunError → String
  | .preflight e => s!"Preflight check failed: {e.message}"

/-- Where a run stands. -/
inductive RunPhase
  | ready
  /-- It waits for the stop signal. -/
  | waiting
  /-- It waits for the sessions to end, but not beyond a moment. -/
  | draining (deadline : Duration)
  /-- It waits for the health loop that it called. -/
  | joining
  | done (result : Except RunError Unit)
  /-- No port could be drawn at all, and the run was cut short. -/
  | aborted

/-- What became of the run's call of the health loop. -/
inductive LoopCall
  | pending
  /-- The call is the health loop of the supervisor. -/
  | looping
  /-- There was a loop already, and the call returned. -/
  | returned
  deriving DecidableEq

/-- A run. -/
structure Run where
  credentials : Except CredentialError Path
  workspaces : List Workspace
  phase : RunPhase := .ready
  loopCall : LoopCall := .pending

namespace Run

variable {σ : Type}

/-- Whether a run has come to its end. -/
def isOver (r : Run) : Bool :=
  match r.phase with
  | .done _ | .aborted => true
  | _ => false

/-- Whether a run waits for the stop signal. -/
def isWaiting (r : Run) : Bool :=
  match r.phase with
  | .waiting => true
  | _ => false

/-- Checks for the private key and starts the tunnels. Without any workspace there is
nothing to wait for. -/
def begin (setup : Setup σ) (r : Run) (s : Supervisor σ) : Run × Supervisor σ :=
  match r.credentials with
  | .error e => ({ r with phase := .done (.error (.preflight e)) }, s)
  | .ok _ =>
    if r.workspaces.isEmpty then ({ r with phase := .done (.ok ()) }, s)
    else
      match s.start setup r.workspaces with
      | (some _, s) => ({ r with phase := .waiting }, s)
      | (none, s) => ({ r with phase := .aborted }, s)

/-- Calls the health loop. -/
def callLoop (r : Run) (s : Supervisor σ) : Run × Supervisor σ :=
  let (looping, s) := s.beginLoop
  ({ r with loopCall := if looping then .looping else .returned }, s)

/-- The wait for the sessions is over. -/
def finishDrain (setup : Setup σ) (r : Run) (s : Supervisor σ) : Run × Supervisor σ :=
  let r := { r with phase := .joining }
  if s.isDrained then (r, s)
  else
    (r, (s.noteDrain setup).note [⟨.warn, .run, "Exiting with tunnel tasks still running"⟩])

/-- The stop signal has come: the supervisor is shut down, and the sessions have until
the end of the grace period. -/
def stop (setup : Setup σ) (now : Duration) (r : Run) (s : Supervisor σ) : Run × Supervisor σ :=
  let (_, s) := s.shutdown
  let deadline := setup.deadline now
  if s.waitIsOver deadline now then r.finishDrain setup s
  else ({ r with phase := .draining deadline }, s)

/-- Whether the wait for the sessions can end. -/
def canFinishDrain (now : Duration) (r : Run) (s : Supervisor σ) : Bool :=
  match r.phase with
  | .draining deadline => s.waitIsOver deadline now
  | _ => false

/-- Whether the wait for the health loop can end. -/
def canJoin (r : Run) (s : Supervisor σ) : Bool :=
  match r.phase, r.loopCall with
  | .joining, .returned => true
  | .joining, .looping => s.healthLoop == .ended
  | _, _ => false

/-- The run is complete. A loop that did not end by itself but was cut short, because no
port could be drawn at all, is worth one more warning; what it says is up to the runtime that
ran the loop, so it is not among the logs here. -/
def join (r : Run) : Run := { r with phase := .done (.ok ()) }

end Run

end TunnelFleet
