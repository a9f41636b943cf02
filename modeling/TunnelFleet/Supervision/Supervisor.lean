import TunnelFleet.Supervision.Health
import TunnelFleet.Supervision.History
import TunnelFleet.Supervision.Session

/-!
# The supervisor

The supervisor keeps one tunnel open for each workspace. It starts sessions, learns
of their ends, and on any fatal signal probes every registered workspace and resets
the ones found unhealthy, as far as their retry budgets go. A signal never selects
the workspace to reset: an error in one session may mean that a whole network path
is down.

The operations here are functions on the state of a supervisor. What happens next in
a run, and in which order, is the business of `Event.apply`.
-/

namespace TunnelFleet

/-- What a supervisor works with and never changes. -/
structure Setup (σ : Type) where
  ports : PortStore σ
  sampler : Sampler
  /-- The retries that each workspace gets for a run. -/
  retryBudget : Nat := 3
  /-- How long a shutdown waits for the sessions to end. -/
  grace : Duration := .ofSeconds 5
  /-- The port that tunnels lead to unless an address names one. -/
  remotePort : UInt16 := Workspace.defaultRemotePort

/-- When a shutdown that begins at a moment gives up waiting for the sessions. -/
def Setup.deadline {σ : Type} (setup : Setup σ) (now : Duration) : Duration :=
  ⟨now.nanoseconds + setup.grace.nanoseconds⟩

/-- Where the health loop stands. -/
inductive HealthLoop
  /-- Nobody has started it. -/
  | idle
  /-- It waits for a signal or for the shutdown. -/
  | listening
  /-- It has received a signal, and the pass that the signal asks for is to begin. -/
  | alerted
  /-- It probes these workspaces. -/
  | probing (targets : List Workspace)
  /-- It acts on these verdicts. -/
  | treating (verdicts : List (Workspace × Verdict))
  /-- It is over, and the receiver of signals with it. -/
  | ended
  deriving DecidableEq, Inhabited

/-- The state of a supervisor whose ports are stored in a `σ`. -/
structure Supervisor (σ : Type) where
  store : σ
  assigner : Assigner := {}
  registry : Registry := {}
  mailbox : Mailbox := {}
  healthLoop : HealthLoop := .idle
  /-- The sessions that have not ended. -/
  tasks : List Session := []
  /-- Every session that was ever handed to the provider, in order. -/
  sessions : List Session := []
  /-- What was logged, in order. -/
  logs : List LogLine := []
  /-- What happened, in order. -/
  history : List Happening := []

/-- How the start of a tunnel ends. -/
inductive StartOutcome
  | started (port : UInt16)
  | refused (e : StartError)
  /-- No port could be drawn at all, and the caller gets no answer. -/
  | aborted
  deriving DecidableEq

/-- How the reset of a workspace ends. -/
inductive ResetOutcome
  | restarted (remaining : Nat) (port : UInt16)
  | restartFailed (remaining : Nat)
  | exhausted
  | unknown
  deriving DecidableEq

namespace Supervisor

variable {σ : Type}

/-- Whether a shutdown has begun. -/
def isStopping (s : Supervisor σ) : Bool := s.registry.tokens.rootCancelled

/-- Adds lines to the log. -/
def note (s : Supervisor σ) (lines : List LogLine) : Supervisor σ :=
  { s with logs := s.logs ++ lines }

/-- Adds a line about one workspace to the log. -/
def say (s : Supervisor σ) (level : LogLevel) (l : LocalId) (text : String) : Supervisor σ :=
  s.note [.about level .supervisor l.text text]

/-- Adds to the history. -/
def record (s : Supervisor σ) (entries : List Happening) : Supervisor σ :=
  { s with history := s.history ++ entries }

/-! ## Budgets -/

/-- Gives a local id a retry budget, unless it has one. -/
def ensureBudget (l : LocalId) (attempts : Nat) (s : Supervisor σ) : Supervisor σ :=
  { s with registry := s.registry.ensureBudget l attempts }.record
    (if l ∈ s.registry.budgets then [] else [.budgeted l attempts])

/-- Closes the handle of a local id and spends one of its retries. -/
def resetRegistered (l : LocalId) (s : Supervisor σ) : ResetDecision × Supervisor σ :=
  let (decision, registry) := s.registry.reset l
  (decision, { s with registry }.record [.decided l decision])

/-! ## Starting -/

/-- Registers a session for a workspace on a port and hands it to the provider. Its
token carries the number that the session gets. -/
def launch (w : Workspace) (p : UInt16) (s : Supervisor σ) : StartOutcome × Supervisor σ :=
  match s.registry.replace { workspace := w, port := p, token := s.registry.lastSession + 1 } with
  | (.error e, registry) => (.refused e, { s with registry })
  | (.ok number, registry) =>
    let session : Session := { number, workspace := w, port := p }
    (.started p,
      { s with registry, tasks := s.tasks ++ [session], sessions := s.sessions ++ [session] })

/-- Starts the tunnel of a workspace, in place of the one that it may have. -/
def startTunnel (setup : Setup σ) (w : Workspace) (s : Supervisor σ) :
    StartOutcome × Supervisor σ :=
  if s.isStopping then (.refused .shuttingDown, s)
  else
    let r := s.assigner.resolve setup.ports setup.sampler w.localId s.store
    let s := { s with assigner := r.assigner, store := r.store }.note r.logs
    match r.result with
    | .aborted => (.aborted, s)
    | .refused e => (.refused (.port e), s)
    | .port p => s.launch w p

/-- Starts the tunnel of one of the workspaces that a start is for. If it cannot be
started, that is logged. -/
def startOne (setup : Setup σ) (w : Workspace) (s : Supervisor σ) :
    StartOutcome × Supervisor σ :=
  match (s.ensureBudget w.localId setup.retryBudget).startTunnel setup w with
  | (.started p, s) => (.started p, s.record [.counted w])
  | (.refused e, s) =>
    (.refused e, s.say .error w.localId s!"Failed to start tunnel: {e.message}")
  | (.aborted, s) => (.aborted, s)

/-- Starts the tunnels of the workspaces one by one, and counts those that started.
A workspace that cannot be started is passed over. -/
def startEach (setup : Setup σ) : List Workspace → Supervisor σ → Option Nat × Supervisor σ
  | [], s => (some 0, s)
  | w :: ws, s =>
    match s.startOne setup w with
    | (.started _, s) =>
      let (count, s) := startEach setup ws s
      (count.map (· + 1), s)
    | (.refused _, s) => startEach setup ws s
    | (.aborted, s) => (none, s)

/-- Starts the tunnels of the workspaces, with the pinned ports of all of them set
aside first. There is no count if no port could be drawn at all. -/
def start (setup : Setup σ) (ws : List Workspace) (s : Supervisor σ) :
    Option Nat × Supervisor σ :=
  if ws.isEmpty then (some 0, s)
  else
    let (assigner, logs) := s.assigner.reserve setup.ports s.store ws
    startEach setup ws ({ s with assigner }.note logs)

/-! ## Resetting -/

/-- Closes the tunnel of a workspace and starts it again if its budget allows. -/
def reset (setup : Setup σ) (w : Workspace) (s : Supervisor σ) :
    Option ResetOutcome × Supervisor σ :=
  match s.resetRegistered w.localId with
  | (.retry remaining, s) =>
    match s.startTunnel setup w with
    | (.started p, s) => (some (.restarted remaining p), s)
    | (.refused e, s) =>
      (some (.restartFailed remaining), s.say .error w.localId s!"Restart failed: {e.message}")
    | (.aborted, s) => (none, s)
  | (.exhausted first, s) =>
    (some .exhausted,
      if first then
        s.say .error w.localId "Retries exhausted, leaving workspace down for this run"
      else s)
  | (.unknown, s) =>
    (some .unknown, s.say .warn w.localId "Reset requested for unknown workspace")

/-- Acts on the verdict on a workspace: an unhealthy one is reset. The answer tells
whether the supervisor could go on. -/
def treat (setup : Setup σ) (w : Workspace) (v : Verdict) (s : Supervisor σ) :
    Bool × Supervisor σ :=
  match v with
  | .healthy => (true, s)
  | .unhealthy reason =>
    let why := reason.getD "no reason given"
    let s := s.say .warn w.localId s!"Unhealthy: {why}"
    let (outcome, s) := s.reset setup w
    (outcome.isSome, s)

/-- Acts on verdicts one by one, and lists the unhealthy workspaces. -/
def treatEach (setup : Setup σ) :
    List (Workspace × Verdict) → Supervisor σ → Option (List LocalId) × Supervisor σ
  | [], s => (some [], s)
  | (w, v) :: rest, s =>
    match s.treat setup w v with
    | (true, s) =>
      let (unhealthy, s) := treatEach setup rest s
      (unhealthy.map fun ls => if v.isHealthy then ls else w.localId :: ls, s)
    | (false, s) => (none, s)

/-- Probes workspaces: the verdicts, in order. -/
def probeEach (asker : Asker) (probe : Workspace → Verdict) (ws : List Workspace)
    (s : Supervisor σ) : List (Workspace × Verdict) × Supervisor σ :=
  (ws.map fun w => (w, probe w), s.record (ws.map (.probed asker)))

/-- Probes every registered workspace, in the order of the local ids, and resets the
unhealthy ones. The answer lists them. -/
def recheck (setup : Setup σ) (probe : Workspace → Verdict) (s : Supervisor σ) :
    Option (List LocalId) × Supervisor σ :=
  let (verdicts, s) := s.probeEach .caller probe s.registry.workspaces
  s.treatEach setup verdicts

/-! ## Sessions and signals -/

/-- Reports a fatal signal. The answer tells whether the mailbox took it. -/
def report (signal : Signal) (s : Supervisor σ) : Bool × Supervisor σ :=
  let (taken, mailbox) := s.mailbox.report signal
  (taken, { s with mailbox }.record [.reported signal taken])

/-- A session has ended. If nobody cancelled it, that is an error: its handle is
closed, unless another session has taken its place, and a signal is reported.

All of this is one step here, although a session waits for its turn at the registry after
the look at the token, and the report comes after that. Somebody who replaces or closes the
handle in between cancels the token too late: the stale close and the report still come.
Among the runs of `Event` this is a `closeSession` and a `report` from outside, and the end
of a session that finds its token cancelled. -/
def sessionEnded (session : Session) (ending : Ending) (s : Supervisor σ) : Supervisor σ :=
  let s := { s with tasks := s.tasks.erase session }
  if s.registry.tokens.isCancelled session.number then s
  else
    let s := s.say .error session.localId s!"Tunnel failed: {ending.reason}"
    let s := { s with registry := (s.registry.closeSession session.localId session.number).2 }
    (s.report ⟨some session.localId, ending.reason⟩).2

/-! ## The health loop -/

/-- Starts the health loop. The answer tells whether this call became the loop: there
is one loop in the life of a supervisor. -/
def beginLoop (s : Supervisor σ) : Bool × Supervisor σ :=
  match s.healthLoop with
  | .idle => (true, { s with healthLoop := .listening })
  | _ => (false, s.note [⟨.warn, .supervisor, "Health loop is already running"⟩])

/-- What is logged when a signal is received. -/
def received (signal : Signal) : LogLine :=
  ⟨.warn, .supervisor,
    match signal.localId with
    | some l => s!"Fatal tunnel error reported by [{l}]: {signal.error}"
    | none => s!"Fatal tunnel error reported: {signal.error}"⟩

/-- The listening loop takes the waiting signal. -/
def receiveSignal (s : Supervisor σ) : Option (Supervisor σ) :=
  match s.healthLoop, s.mailbox.receive with
  | .listening, (some signal, mailbox) =>
    some (({ s with mailbox, healthLoop := .alerted }.record [.received signal]).note
      [received signal])
  | _, _ => none

/-- The alerted loop settles which workspaces it probes: all that are registered now. -/
def takeSnapshot (s : Supervisor σ) : Option (Supervisor σ) :=
  match s.healthLoop with
  | .alerted =>
    let ws := s.registry.workspaces
    some ({ s with healthLoop := .probing ws }.record [.surveyed ws])
  | _ => none

/-- The probes of a pass have come back. -/
def collectVerdicts (probe : Workspace → Verdict) (s : Supervisor σ) : Option (Supervisor σ) :=
  match s.healthLoop with
  | .probing targets =>
    let (verdicts, s) := s.probeEach .healthLoop probe targets
    some { s with healthLoop := .treating verdicts }
  | _ => none

/-- The loop goes away, and the receiver of signals with it. -/
def endLoop (s : Supervisor σ) : Supervisor σ :=
  { s with healthLoop := .ended, mailbox := s.mailbox.abandon }

/-- The loop acts on its next verdict; after the last one it listens again. -/
def treatNext (setup : Setup σ) (s : Supervisor σ) : Option (Supervisor σ) :=
  match s.healthLoop with
  | .treating [] => some ({ s with healthLoop := .listening }.record [.passEnded])
  | .treating ((w, v) :: rest) =>
    match s.treat setup w v with
    | (true, s) => some { s with healthLoop := .treating rest }
    | (false, s) => some s.endLoop
  | _ => none

/-- The listening loop notices the shutdown. -/
def stopLoop (s : Supervisor σ) : Option (Supervisor σ) :=
  match s.healthLoop with
  | .listening => if s.isStopping then some s.endLoop else none
  | _ => none

/-! ## Shutdown -/

/-- Cancels every session and closes every handle. The answer counts the handles that
were not closed before. -/
def shutdown (s : Supervisor σ) : Nat × Supervisor σ :=
  let (closed, registry) :=
    { s.registry with tokens := s.registry.tokens.cancelRoot }.closeAll
  (closed, { s with registry })

/-- Whether no session is left to wait for. -/
def isDrained (s : Supervisor σ) : Bool := s.tasks.isEmpty

/-- Whether a shutdown has waited long enough: no session is left, or its deadline has
come. -/
def waitIsOver (deadline now : Duration) (s : Supervisor σ) : Bool :=
  s.isDrained || deadline.nanoseconds ≤ now.nanoseconds

/-- The end of a shutdown's wait: sessions that are still there are worth a warning. -/
def noteDrain (setup : Setup σ) (s : Supervisor σ) : Supervisor σ :=
  if s.isDrained then s
  else
    s.note [⟨.warn, .supervisor,
      s!"{s.tasks.length} tunnel task(s) still running after {setup.grace.text}"⟩]

end Supervisor

end TunnelFleet
