import TunnelFleet.Ports.Assigner

/-!
# Runs of an assigner

In one run an assigner is asked for ports again and again, and from one request to the
next the store may have become any other. A `PortRun` keeps which ports were given to
whom, in order, so that one can say what a local id was given last.
-/

namespace TunnelFleet

/-- An assigner at work on a store, and what has come of the requests so far. -/
structure PortRun (σ : Type) where
  assigner : Assigner
  store : σ
  /-- The ports that were claimed for a local id or given to it as an answer, in order. -/
  granted : List (LocalId × UInt16) := []
  logs : List LogLine := []

/-- Something that happens in the run of an assigner. -/
inductive PortEvent (σ : Type)
  | reserve (ws : List Workspace)
  /-- A request for the port of a local id. What is random may be different each time. -/
  | resolve (sampler : Sampler) (l : LocalId)
  /-- The store changes without the assigner's doing. -/
  | storeChanged (store : σ)

namespace PortRun

variable {σ : Type}

/-- A run in which nothing has happened yet. -/
def fresh (drawing : Drawing) (store : σ) : PortRun σ := { assigner := { drawing }, store }

/-- The port that was claimed for a local id or given to it last. -/
def lastGrant? (r : PortRun σ) (l : LocalId) : Option UInt16 := r.granted.reverse.lookup l

/-- The pinned ports of those workspaces that have one and can be looked up, in order. -/
def pinned (ports : PortStore σ) (store : σ) (ws : List Workspace) : List (LocalId × UInt16) :=
  ws.filterMap fun w => (ports.pin? store w.localId).map (w.localId, ·)

/-- Sets the pinned ports of the workspaces aside. -/
def reserve (ports : PortStore σ) (ws : List Workspace) (r : PortRun σ) : PortRun σ :=
  let (assigner, lines) := r.assigner.reserve ports r.store ws
  { r with
    assigner
    granted := r.granted ++ pinned ports r.store ws
    logs := r.logs ++ lines }

/-- Asks for the port of a local id. -/
def resolve (ports : PortStore σ) (sampler : Sampler) (l : LocalId) (r : PortRun σ) : PortRun σ :=
  let answered := r.assigner.resolve ports sampler l r.store
  { assigner := answered.assigner
    store := answered.store
    granted := r.granted ++ (answered.result.port?.map (l, ·)).toList
    logs := r.logs ++ answered.logs }

end PortRun

namespace PortEvent

variable {σ : Type}

/-- The run after an event. -/
def apply (ports : PortStore σ) : PortEvent σ → PortRun σ → PortRun σ
  | .reserve ws, r => r.reserve ports ws
  | .resolve sampler l, r => r.resolve ports sampler l
  | .storeChanged store, r => { r with store }

/-- Whether an event is about the port of a local id. -/
def Concerns (l : LocalId) : PortEvent σ → Prop
  | .reserve ws => ∃ w ∈ ws, w.localId = l
  | .resolve _ k => k = l
  | .storeChanged _ => False

end PortEvent

/-- The run after events one after the other. -/
def PortRun.after {σ : Type} (ports : PortStore σ) (r : PortRun σ) (events : List (PortEvent σ)) :
    PortRun σ :=
  events.foldl (fun r e => e.apply ports r) r

end TunnelFleet
