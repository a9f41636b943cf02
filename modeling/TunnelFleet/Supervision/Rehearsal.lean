import TunnelFleet.Supervision.Operation

/-!
# Rehearsals

A rehearsal runs an operation against a script: what the sessions of each workspace
do, who is unwell, when the stop signal comes. Everything happens on one thread and
in a fixed order. Whatever can go on waits in a queue, in the order in which it
became able to, and a call from outside is followed by the work of the whole queue.
Time passes only when nobody has anything to do.

Nobody but the callers from outside touches the operation other than by its events
(`perform`), so what is rehearsed is one of the courses that an operation can take.
-/

namespace TunnelFleet

/-- A scripted end of a session. -/
inductive ScriptedEnd
  | finished
  | bind (reason : String)
  | unreachable (address reason : String)
  | io (reason : String)
  deriving DecidableEq

/-- The end of a session on a port, as the script has it. -/
def ScriptedEnd.ending (port : UInt16) : ScriptedEnd → Ending
  | .finished => .ok ()
  | .bind reason => .error (.bind port reason)
  | .unreachable address reason => .error (.unreachable address reason)
  | .io reason => .error (.io reason)

/-- What a session does. -/
inductive Mode
  /-- It goes on until it is cancelled or finished by hand. -/
  | hold
  /-- It goes on until it is finished by hand, cancelled or not. -/
  | stubborn
  | ends (how : ScriptedEnd)
  deriving DecidableEq

/-- What the sessions of a workspace do: the first ones in turn, all others alike. -/
structure Plan where
  modes : List Mode := []
  always : Option Mode := none

/-- What the next session does, and the plan for the sessions after it. -/
def Plan.next (p : Plan) : Mode × Plan :=
  match p.modes with
  | mode :: modes => (mode, { p with modes })
  | [] => (p.always.getD .hold, p)

/-- That a workspace is unwell: why, and for how many probes if not for ever. -/
structure Illness where
  reason : Option String
  probes : Option Nat

/-- A session that the provider has opened. -/
structure OpenedSession where
  session : Session
  mode : Mode
  /-- Whether the session still waits for its end. -/
  waiting : Bool

/-- Something that can go on. -/
inductive Job
  | openSession (session : Session)
  | endSession (session : Session) (ending : Ending)
  | healthLoop
  /-- A run begins. -/
  | beginRun (credentials : Except CredentialError Path) (ws : List Workspace)
  /-- A run goes on from where it stands. -/
  | run (index : Nat)
  /-- The health loop that a run has called begins. -/
  | runLoop (index : Nat)

namespace Job

/-- Whether a job is for the health loop. -/
def isLoop : Job → Bool
  | .healthLoop => true
  | _ => false

/-- Whether in a job the run with this number goes on. -/
def isRun (i : Nat) : Job → Bool
  | .run j => j == i
  | _ => false

end Job

/-- A rehearsal of an operation. -/
structure Rehearsal (σ : Type) extends Operation σ where
  setup : Setup σ
  plans : Std.ExtTreeMap LocalId Plan := ∅
  illnesses : Std.ExtTreeMap LocalId Illness := ∅
  /-- The sessions opened so far, in order. -/
  opened : List OpenedSession := []
  /-- The workspaces probed so far, in order. -/
  probed : List LocalId := []
  /-- How many runs were told to have come to an end. -/
  told : Nat := 0
  /-- How many of the supervisor's sessions have been queued for opening. -/
  queued : Nat := 0
  queue : List Job := []

namespace Rehearsal

variable {σ : Type}

/-! ## Waking -/

/-- Queues the sessions that the supervisor has started. -/
def wakeSessions (r : Rehearsal σ) : Rehearsal σ :=
  { r with
    queue := r.queue ++ (r.supervisor.sessions.drop r.queued).map .openSession
    queued := r.supervisor.sessions.length }

/-- Whether a session waits for its end and yields to its cancelled token. -/
def yields (r : Rehearsal σ) (o : OpenedSession) : Bool :=
  o.waiting && o.mode == .hold && r.supervisor.registry.tokens.isCancelled o.session.number

/-- Ends the waiting sessions that are cancelled. -/
def wakeCancelled (r : Rehearsal σ) : Rehearsal σ :=
  { r with
    queue := r.queue ++ (r.opened.filter r.yields).map fun o => .endSession o.session (.ok ())
    opened := r.opened.map fun o => if r.yields o then { o with waiting := false } else o }

/-- Whether there is something for the health loop to do. -/
def loopCanGoOn (r : Rehearsal σ) : Bool :=
  r.supervisor.healthLoop == .listening &&
    (r.supervisor.isStopping || r.supervisor.mailbox.pending.isSome)

/-- Whether the health loop is queued. -/
def loopQueued (r : Rehearsal σ) : Bool := r.queue.any Job.isLoop

/-- Whether the health loop is not queued although it could go on. -/
def loopIdles (r : Rehearsal σ) : Bool := r.loopCanGoOn && !r.loopQueued

/-- Queues the health loop if there is something for it to do. -/
def wakeLoop (r : Rehearsal σ) : Rehearsal σ :=
  if r.loopIdles then { r with queue := r.queue ++ [.healthLoop] } else r

/-- Whether a run no longer waits for anything but sessions or the health loop. -/
def runCanGoOn (r : Rehearsal σ) (i : Nat) : Bool :=
  r.runs[i]?.any fun run => run.canFinishDrain r.now r.supervisor || run.canJoin r.supervisor

/-- Whether a run is queued. -/
def runQueued (r : Rehearsal σ) (i : Nat) : Bool := r.queue.any (Job.isRun i)

/-- Queues the runs that can go on. -/
def wakeRuns (r : Rehearsal σ) : Rehearsal σ :=
  let able := (List.range r.runs.length).filter fun i => r.runCanGoOn i && !r.runQueued i
  { r with queue := r.queue ++ able.map .run }

/-- Queues everything that has become able to go on. -/
def wake (r : Rehearsal σ) : Rehearsal σ :=
  r.wakeSessions.wakeCancelled.wakeLoop.wakeRuns

/-! ## Events -/

/-- Something happens to the operation, if it can. -/
def perform (e : OperationEvent σ) (r : Rehearsal σ) : Rehearsal σ :=
  match e.apply r.setup r.toOperation with
  | some o => { r with toOperation := o }
  | none => r

/-- What can happen of these things happens to the operation, in their order. -/
def performAll (events : List (OperationEvent σ)) (r : Rehearsal σ) : Rehearsal σ :=
  events.foldl (fun r e => r.perform e) r

/-- Something happens to the operation, if it can, and others become able to go on. -/
def happen (e : OperationEvent σ) (r : Rehearsal σ) : Rehearsal σ :=
  match e.apply r.setup r.toOperation with
  | some o => { r with toOperation := o }.wake
  | none => r

/-- A call of the supervisor from outside. -/
def call {α : Type} (f : Supervisor σ → α × Supervisor σ) (r : Rehearsal σ) : α × Rehearsal σ :=
  let (answer, supervisor) := f r.supervisor
  let became := r.supervisor.healthLoop == .idle && supervisor.healthLoop != .idle
  let operation := { r.toOperation with supervisor }.enlist none became
  (answer, { r with toOperation := operation }.wake)

/-- A call of the supervisor from outside without an answer. -/
def update (f : Supervisor σ → Supervisor σ) (r : Rehearsal σ) : Rehearsal σ :=
  (r.call fun s => ((), f s)).2

/-! ## Probing -/

/-- The verdict that the script has for a workspace. -/
def verdict (r : Rehearsal σ) (w : Workspace) : Verdict :=
  match (r.illnesses[w.localId]? : Option Illness) with
  | some ⟨_, some 0⟩ => .healthy
  | some ⟨reason, _⟩ => .unhealthy reason
  | none => .healthy

/-- Notes that workspaces were probed; an illness of limited length comes closer to
its end. -/
def noteProbes (r : Rehearsal σ) (ls : List LocalId) : Rehearsal σ :=
  { r with
    probed := r.probed ++ ls
    illnesses := r.illnesses.map fun l illness =>
      if l ∈ ls then { illness with probes := illness.probes.map (· - 1) } else illness }

/-- A pass over all workspaces that somebody outside asks for. -/
def recheck (r : Rehearsal σ) : Option (List LocalId) × Rehearsal σ :=
  let targets := r.supervisor.registry.workspaces.map (·.localId)
  let (unhealthy, r') := r.call (·.recheck r.setup r.verdict)
  (unhealthy, r'.noteProbes targets)

/-! ## Working -/

/-- The provider opens a session and does with it what the plan says. -/
def openSession (session : Session) (r : Rehearsal σ) : Rehearsal σ :=
  let (mode, plan) := (r.plans[session.localId]?.getD {}).next
  let plans := r.plans.insert session.localId plan
  match mode with
  | .ends how =>
    let r := { r with plans, opened := r.opened ++ [OpenedSession.mk session mode false] }
    (r.perform (.supervisor (.sessionEnded session (how.ending session.port)))).wake
  | _ =>
    let r := { r with plans, opened := r.opened ++ [OpenedSession.mk session mode true] }
    r.wake

/-- What happens in a pass of the health loop over so many workspaces, from the signal until
the loop listens again. -/
def passEvents (probe : Workspace → Verdict) (size : Nat) : List (Event σ) :=
  .receiveSignal :: .takeSnapshot :: .collectVerdicts probe :: List.replicate (size + 1) .treatNext

/-- The health loop stops, or makes one pass for the signal that it receives. -/
def workLoop (r : Rehearsal σ) : Rehearsal σ :=
  if r.supervisor.stopLoop.isSome then (r.perform (.supervisor .stopLoop)).wake
  else if r.supervisor.receiveSignal.isSome then
    let targets := r.supervisor.registry.workspaces
    let pass := passEvents r.verdict targets.length
    ((r.performAll (pass.map .supervisor)).noteProbes (targets.map (·.localId))).wake
  else r

/-- A run begins, and leaves its call of the health loop to be made. -/
def workBegin (credentials : Except CredentialError Path) (ws : List Workspace)
    (r : Rehearsal σ) : Rehearsal σ :=
  let i := r.runs.length
  let r := (r.perform (.run credentials ws)).wakeSessions
  if r.runs[i]?.any Run.isWaiting then { r with queue := r.queue ++ [Job.runLoop i] }.wake
  else r.wake

/-- A run goes on from where it stands. -/
def workRun (i : Nat) (r : Rehearsal σ) : Rehearsal σ :=
  match r.runs[i]?.map Run.phase with
  | some .waiting => r.happen (.stop i)
  | some (.draining _) => r.happen (.finishDrain i)
  | some .joining => r.happen (.join i)
  | _ => r

/-- Does one job. -/
def work (job : Job) (r : Rehearsal σ) : Rehearsal σ :=
  match job with
  | .openSession session => r.openSession session
  | .endSession session ending => r.happen (.supervisor (.sessionEnded session ending))
  | .healthLoop => r.workLoop
  | .beginRun credentials ws => r.workBegin credentials ws
  | .run i => r.workRun i
  | .runLoop i => r.happen (.callLoop i)

/-- Works until the queue is empty or `fuel` jobs are done. -/
def workAll : (fuel : Nat) → Rehearsal σ → Rehearsal σ
  | 0, r => r
  | fuel + 1, r =>
    match r.queue with
    | [] => r
    | job :: queue => workAll fuel ({ r with queue }.work job)

/-! ## How much work there is -/

end Rehearsal

/-- The retries that all local ids with a budget have left together. -/
def Registry.allRetries (r : Registry) : Nat :=
  (r.budgets.keys.map fun l => (r.remaining? l).getD 0).foldr (· + ·) 0

/-- What a job may bring up, counted with the job itself. A session is opened, ends and makes the
health loop do something. A run starts a tunnel for each of its workspaces and gives each of
them retries, and each of these may come to a session. -/
def Job.cost (retryBudget : Nat) : Job → Nat
  | .openSession _ => 3
  | .endSession _ _ => 2
  | .healthLoop => 1
  | .beginRun _ ws => 3 * (ws.length * (retryBudget + 1)) + 7
  | .run _ => 1
  | .runLoop _ => 2

/-- What a run may still bring up, besides being queued once more. -/
def Run.cost (run : Run) : Nat :=
  match run.phase with
  | .waiting => 3
  | .draining _ => 1
  | _ => 0

/-- Whether a run has been stopped and is not over. -/
def Run.isLeaving (run : Run) : Bool :=
  match run.phase with
  | .draining _ | .joining => true
  | _ => false

namespace Rehearsal

variable {σ : Type}

/-- Whether a run has been stopped, is not over and is not queued. -/
def runIdles (r : Rehearsal σ) (i : Nat) : Bool := r.runs[i]?.any Run.isLeaving && !r.runQueued i

/-- How many sessions wait for their end. -/
def waitingCount (r : Rehearsal σ) : Nat := r.opened.countP (·.waiting)

/-- What the jobs in the queue may bring up. -/
def queueUnrest (r : Rehearsal σ) : Nat :=
  (r.queue.map (Job.cost r.setup.retryBudget)).foldr (· + ·) 0

/-- What a run may bring up that is not queued. -/
def runUnrest (r : Rehearsal σ) (i : Nat) : Nat :=
  (r.runs[i]?.map Run.cost).getD 0 + (r.runIdles i).toNat

/-- What all the runs may bring up that are not queued. -/
def runsUnrest (r : Rehearsal σ) : Nat :=
  ((List.range r.runs.length).map r.runUnrest).foldr (· + ·) 0

/-- What the sessions that are not queued may bring up. One that waits for its end is worth this
end, and a retry is worth a session. -/
def sessionsUnrest (r : Rehearsal σ) : Nat :=
  3 * (r.supervisor.sessions.length - r.queued + r.supervisor.registry.allRetries) +
    2 * r.waitingCount

/-- What the queue, the sessions, the health loop and the runs may still bring up. -/
def unrest (r : Rehearsal σ) : Nat :=
  r.queueUnrest + r.sessionsUnrest + r.loopIdles.toNat + r.runsUnrest

/-- More jobs than can come up before everybody is idle. A job makes for less unrest, or it finds
nothing to do, and there are never more jobs queued than there is unrest. -/
def jobBound (r : Rehearsal σ) : Nat := r.unrest * r.unrest + r.queue.length

/-- Works until everybody is idle. -/
def settle (r : Rehearsal σ) : Rehearsal σ := r.workAll r.jobBound

/-! ## Time -/

/-- The next moment up to `until` at which a run stops waiting for its sessions. -/
def nextDeadline? (moment : Duration) (r : Rehearsal σ) : Option Duration :=
  let deadlines := r.runs.filterMap fun run =>
    match run.phase with
    | .draining deadline =>
      if deadline.nanoseconds ≤ moment.nanoseconds then some deadline.nanoseconds else none
    | _ => none
  deadlines.min?.map Duration.mk

/-- Lets time pass up to a moment, if it is still to come. -/
def passTo (moment : Duration) (r : Rehearsal σ) : Rehearsal σ :=
  r.perform (.timePasses ⟨moment.nanoseconds - r.now.nanoseconds⟩)

/-- Lets time pass from deadline to deadline, at most `fuel` of them. -/
def passDeadlines (moment : Duration) : (fuel : Nat) → Rehearsal σ → Rehearsal σ
  | 0, r => r
  | fuel + 1, r =>
    match r.nextDeadline? moment with
    | none => r
    | some deadline => passDeadlines moment fuel (r.passTo deadline).wake.settle

/-- Lets time pass up to a moment. Nobody is queued before and after. -/
def passUntil (moment : Duration) (r : Rehearsal σ) : Rehearsal σ :=
  (r.passDeadlines moment (r.runs.length + 1)).passTo moment

/-- Lets some time pass. -/
def wait (d : Duration) (r : Rehearsal σ) : Rehearsal σ :=
  (r.settle.passUntil ⟨r.now.nanoseconds + d.nanoseconds⟩).settle

/-! ## Calls from outside -/

/-- Shuts the supervisor down and waits for its sessions as long as the grace period
allows. The answer counts the handles that were not closed before, and tells whether
all sessions have ended. -/
def shutdown (r : Rehearsal σ) : Nat × Bool × Rehearsal σ :=
  let (closed, r) := r.call Supervisor.shutdown
  let deadline := r.setup.deadline r.now
  let r :=
    if r.supervisor.waitIsOver deadline r.now then r
    else
      let r := r.settle
      if r.supervisor.isDrained then r else r.passUntil deadline
  let drained := r.supervisor.isDrained
  (closed, drained, r.update (·.noteDrain r.setup))

/-- Ends a waiting session by hand. The answer tells whether it was still waiting. -/
def finish (index : Nat) (how : ScriptedEnd) (r : Rehearsal σ) : Bool × Rehearsal σ :=
  match r.opened[index]? with
  | some o =>
    if o.waiting then
      (true,
        { r with
          opened := r.opened.set index { o with waiting := false }
          queue := r.queue ++ [.endSession o.session (how.ending o.session.port)] })
    else (false, r)
  | none => (false, r)

/-- A session reports a fatal error while it goes on. -/
def sessionReport (index : Nat) (error : String) (r : Rehearsal σ) : Bool × Rehearsal σ :=
  match r.opened[index]? with
  | some o => r.call (·.report ⟨some o.session.localId, error⟩)
  | none => (false, r)

/-- Begins a run in the background. -/
def beginRun (credentials : Except CredentialError Path) (ws : List Workspace)
    (r : Rehearsal σ) : Rehearsal σ :=
  { r with queue := r.queue ++ [.beginRun credentials ws] }

/-- Sends the stop signal to the latest run. The answer tells whether the run was
waiting for it. -/
def sendStop (r : Rehearsal σ) : Bool × Rehearsal σ :=
  match r.runs.getLast? with
  | some run =>
    if run.isWaiting then (true, { r with queue := r.queue ++ [.run (r.runs.length - 1)] })
    else (false, r)
  | none => (false, r)

/-- Reports signals one after the other, before anybody can act on them. The answers tell
which of them the mailbox took. -/
def reportAll : List Signal → Rehearsal σ → List Bool × Rehearsal σ
  | [], r => ([], r)
  | signal :: signals, r =>
    let (taken, r) := r.call (·.report signal)
    let (answers, r) := reportAll signals r
    (taken :: answers, r)

/-- Where the latest run stands, if there is one. That a run is over is told once. -/
def tellRun (r : Rehearsal σ) : Option RunPhase × Rehearsal σ :=
  match r.runs.getLast? with
  | none => (none, r)
  | some run =>
    if r.runs.length ≤ r.told then (none, r)
    else (some run.phase, if run.isOver then { r with told := r.runs.length } else r)

end Rehearsal

end TunnelFleet
