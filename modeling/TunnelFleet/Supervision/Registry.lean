import TunnelFleet.Ports.Assigner
import TunnelFleet.Supervision.Budget
import TunnelFleet.Supervision.Handle

/-!
# The registry of tunnels

For each local id the registry holds the handle of the current session and the
retry budget. A local id belongs to the workspace that took it first. Sessions are
numbered in the order in which they are registered, so someone who closes a session
late cannot hit its successor.
-/

namespace TunnelFleet

/-- Why a tunnel could not be started. -/
inductive StartError
  | port (e : PortError)
  | shuttingDown
  /-- The local id belongs to the workspace with the id `registered`. -/
  | conflict (localId : LocalId) (registered : String)
  deriving DecidableEq

/-- What the user is told. -/
def StartError.message : StartError → String
  | .port e => s!"Port resolution failed: {e.message}"
  | .shuttingDown => "Supervisor is shutting down"
  | .conflict localId registered =>
    s!"Local id {localId} is already used by workspace {registered}"

/-- What closing a workspace's handle for a restart led to. -/
inductive ResetDecision
  /-- One retry was spent, and so many are left. -/
  | retry (remaining : Nat)
  /-- No retry was left; `first` the first time that this is found. -/
  | exhausted (first : Bool)
  /-- The workspace has no budget. -/
  | unknown
  deriving DecidableEq

/-- What is shown of one registered tunnel. -/
structure TunnelStatus where
  localId : LocalId
  port : UInt16
  isOpen : Bool
  session : Nat
  remaining : Nat
  deriving DecidableEq

/-- The current tunnels, their budgets and the tokens of all sessions. -/
structure Registry where
  handles : Std.ExtTreeMap LocalId Handle := ∅
  budgets : Std.ExtTreeMap LocalId RetryBudget := ∅
  /-- The number of the session registered last. -/
  lastSession : Nat := 0
  tokens : Tokens := {}

namespace Registry

/-- The current handles in the order of their local ids. -/
def currentHandles (r : Registry) : List Handle := r.handles.toList.map Prod.snd

/-- Takes up a handle under the next session number and closes the one before it. -/
def install (r : Registry) (h : Handle) : Nat × Registry :=
  let session := r.lastSession + 1
  (session,
    { r with
      handles := r.handles.insert h.localId { h with session }
      lastSession := session
      tokens := match r.handles[h.localId]? with
        | some previous => previous.release r.tokens
        | none => r.tokens })

/-- Registers a handle and answers its session number. If another workspace holds
the local id, the handle is refused and nothing changes. -/
def replace (r : Registry) (h : Handle) : Except StartError Nat × Registry :=
  match r.handles[h.localId]? with
  | some current =>
    if current.workspace.id = h.workspace.id then
      let (session, r) := r.install h
      (.ok session, r)
    else (.error (.conflict h.localId current.workspace.id), r)
  | none =>
    let (session, r) := r.install h
    (.ok session, r)

/-- Closes the handle of a local id, if there is one. -/
def closeHandle (r : Registry) (l : LocalId) : Bool × Registry :=
  match r.handles[l]? with
  | some h =>
    let (closed, h, tokens) := h.close r.tokens
    (closed, { r with handles := r.handles.insert l h, tokens })
  | none => (false, r)

/-- Closes a handle if it still is the given session. -/
def closeSession (r : Registry) (l : LocalId) (session : Nat) : Bool × Registry :=
  match r.handles[l]? with
  | some h => if h.session = session then r.closeHandle l else (false, r)
  | none => (false, r)

/-- Closes every handle, and counts those that were not closed before. -/
def closeAll (r : Registry) : Nat × Registry :=
  ((r.currentHandles.filter (!·.closed)).length,
    { r with
      handles := r.handles.map fun _ h => h.shut
      tokens := r.currentHandles.foldl (fun t h => h.release t) r.tokens })

/-- Gives a local id a budget, unless it has one. -/
def ensureBudget (r : Registry) (l : LocalId) (attempts : Nat) : Registry :=
  if l ∈ r.budgets then r else { r with budgets := r.budgets.insert l { remaining := attempts } }

/-- Takes a retry from the budget of a local id. -/
def spend (r : Registry) (l : LocalId) : ResetDecision × Registry :=
  match r.budgets[l]? with
  | none => (.unknown, r)
  | some budget =>
    match budget.consume with
    | (some remaining, budget) =>
      (.retry remaining, { r with budgets := r.budgets.insert l budget })
    | (none, budget) =>
      (.exhausted (!budget.exhaustionReported),
        { r with budgets := r.budgets.insert l { budget with exhaustionReported := true } })

/-- Closes the handle of a local id and spends one of its retries. -/
def reset (r : Registry) (l : LocalId) : ResetDecision × Registry :=
  (r.closeHandle l).2.spend l

/-- The registered workspaces in the order of their local ids. -/
def workspaces (r : Registry) : List Workspace := r.currentHandles.map Handle.workspace

/-- The retries that a local id has left, if it has a budget. -/
def remaining? (r : Registry) (l : LocalId) : Option Nat := r.budgets[l]?.map (·.remaining)

/-- Whether the tunnel of a local id is open. -/
def isOpen (r : Registry) (l : LocalId) : Bool :=
  match r.handles[l]? with
  | some h => !h.isClosed r.tokens
  | none => false

/-- The number of the current session of a local id. -/
def session? (r : Registry) (l : LocalId) : Option Nat := r.handles[l]?.map (·.session)

/-- How many local ids are registered. -/
def size (r : Registry) : Nat := r.handles.size

/-- What is shown of a handle. -/
def statusOf (r : Registry) (l : LocalId) (h : Handle) : TunnelStatus where
  localId := l
  port := h.port
  isOpen := !h.isClosed r.tokens
  session := h.session
  remaining := (r.remaining? l).getD 0

/-- What is shown of all tunnels, in the order of the local ids. -/
def status (r : Registry) : List TunnelStatus :=
  r.handles.toList.map fun (l, h) => r.statusOf l h

end Registry

end TunnelFleet
