import TunnelFleet.Supervision.Registry

/-!
# Runs of a registry

Whoever closes a session late calls a registry that has gone on since, and tokens are
cancelled without its doing. A `RegistryRun` keeps the calls and their answers, so that
one can say which session of a local id was registered last, and whether its handle was
closed since.
-/

namespace TunnelFleet

/-- A call of a registry, or a cancellation that it has no part in. -/
inductive RegistryCall
  /-- A handle is offered. If it is closed, it was closed before this. -/
  | replace (h : Handle)
  | closeSession (l : LocalId) (session : Nat)
  | closeAll
  | reset (l : LocalId)
  | ensureBudget (l : LocalId) (attempts : Nat)
  | cancel (token : Nat)
  | cancelRoot
  deriving DecidableEq

/-- What a registry answers to a call. -/
inductive RegistryAnswer
  | registered (session : Nat)
  | refused (e : StartError)
  /-- Whether a handle was closed that had not been closed before. -/
  | closed (effective : Bool)
  | closedSome (count : Nat)
  | decided (decision : ResetDecision)
  | done
  deriving DecidableEq

namespace RegistryCall

/-- The handle that a call offers. -/
def offered? : RegistryCall → Option Handle
  | .replace h => some h
  | _ => none

/-- The local id that a call to register, to close or to reset is about. -/
def subject? : RegistryCall → Option LocalId
  | .replace h => some h.localId
  | .closeSession l _ => some l
  | .reset l => some l
  | _ => none

/-- What a registry answers to a call, and what becomes of it. -/
def perform (r : Registry) : RegistryCall → RegistryAnswer × Registry
  | .replace h =>
    let tokens := if h.closed then r.tokens.cancel h.token else r.tokens
    match { r with tokens }.replace h with
    | (.ok session, r) => (.registered session, r)
    | (.error e, r) => (.refused e, r)
  | .closeSession l session =>
    let (effective, r) := r.closeSession l session
    (.closed effective, r)
  | .closeAll =>
    let (count, r) := r.closeAll
    (.closedSome count, r)
  | .reset l =>
    let (decision, r) := r.reset l
    (.decided decision, r)
  | .ensureBudget l attempts => (.done, r.ensureBudget l attempts)
  | .cancel token => (.done, { r with tokens := r.tokens.cancel token })
  | .cancelRoot => (.done, { r with tokens := r.tokens.cancelRoot })

end RegistryCall

/-- A call with its answer. -/
abbrev RegistryEntry := RegistryCall × RegistryAnswer

namespace RegistryEntry

/-- The local id and the session number under which a handle was registered. -/
def registration? : RegistryEntry → Option (LocalId × Nat)
  | (.replace h, .registered session) => some (h.localId, session)
  | _ => none

/-- The session number that was given away. -/
def number? (e : RegistryEntry) : Option Nat := (registration? e).map Prod.snd

/-- Whether the handle of this session of a local id is closed at this point: it is registered and
was closed before, or it is closed by this call. -/
def closes (l : LocalId) (session : Nat) : RegistryEntry → Bool
  | (.replace h, .registered n) => h.closed && n == session
  | (.closeSession k n, _) => k == l && n == session
  | (.closeAll, _) => true
  | (.reset k, _) => k == l
  | _ => false

end RegistryEntry

/-- A registry, and what was asked of it so far. -/
structure RegistryRun where
  registry : Registry := {}
  history : List RegistryEntry := []

namespace RegistryRun

/-- The run after one more call. -/
def call (run : RegistryRun) (c : RegistryCall) : RegistryRun :=
  let (answer, registry) := c.perform run.registry
  { registry, history := run.history ++ [(c, answer)] }

/-- The run of a new registry that gets these calls one after the other. -/
def ofCalls (calls : List RegistryCall) : RegistryRun := calls.foldl call {}

/-- The handles that were offered, in order. -/
def offered (run : RegistryRun) : List Handle := run.history.filterMap (·.1.offered?)

/-- The session numbers that were given away, in order. -/
def numbers (run : RegistryRun) : List Nat := run.history.filterMap RegistryEntry.number?

/-- The session of a local id that was registered last. -/
def lastRegistered? (run : RegistryRun) (l : LocalId) : Option Nat :=
  (run.history.filterMap RegistryEntry.registration?).reverse.lookup l

/-- Whether the handle of this session of a local id was closed, since it was registered or
before. -/
def closeCalled (run : RegistryRun) (l : LocalId) (session : Nat) : Bool :=
  (run.history.dropWhile (RegistryEntry.number? · ≠ some session)).any
    (RegistryEntry.closes l session)

end RegistryRun

end TunnelFleet
