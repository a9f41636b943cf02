import TunnelFleet.Log
import TunnelFleet.Ports.Store
import TunnelFleet.Workspace.Basic

/-!
# Port assignment

Every workspace gets a local port for its tunnel. A port that the store has pinned
always wins. Without one the workspace keeps the port that it was issued earlier in
the run, and only then is a port drawn at random: the first of a limited number of
draws that is issued to nobody and, if that is checked, can be bound. A drawn port
is offered to the store.

Chance and the state of the machine come in as a `Sampler`, a sequence of random
numbers and of answers to the bind check, so assignment itself is a function.
-/

namespace TunnelFleet

/-- Why no port was found for a workspace. -/
inductive PortError
  | store (e : StoreUnavailable)
  | exhausted (attempts : Nat)
  deriving DecidableEq

/-- What the user is told. -/
def PortError.message : PortError → String
  | .store e => s!"Configured port lookup failed: {e.message}"
  | .exhausted attempts => s!"No free local port found after {attempts} attempts"

/-- The ports from `first` up to, but not including, `bound`. -/
structure PortRange where
  first : UInt16
  bound : UInt16
  deriving DecidableEq, Inhabited

namespace PortRange

/-- The range of ports that are drawn unless another range is asked for. -/
def ephemeral : PortRange := ⟨1024, 65535⟩

/-- The port after `p`; the last port has none after it and stands for itself. -/
def after (p : UInt16) : UInt16 := if p == 65535 then p else p + 1

/-- The range that is drawn from when `[first, bound)` is asked for. It reaches past
`first`, as far as there is a port past it. -/
def atLeastOne (first bound : UInt16) : PortRange := ⟨first, max bound (after first)⟩

/-- How many ports a range has. -/
def size (r : PortRange) : Nat := r.bound.toNat - r.first.toNat

/-- Whether a port is in a range. -/
def contains (r : PortRange) (p : UInt16) : Bool := r.first ≤ p && p < r.bound

/-- The port of a range that a random number selects. -/
def pick (r : PortRange) (n : Nat) : UInt16 := UInt16.ofNat (r.first.toNat + n % r.size)

end PortRange

/-- How ports are drawn. -/
structure Drawing where
  range : PortRange := .ephemeral
  /-- How many draws are made for one workspace before it is given up. -/
  maxAttempts : Nat := 64
  /-- At least one draw is made. -/
  maxAttempts_pos : 0 < maxAttempts := by decide
  /-- Whether a drawn port has to pass the bind check. -/
  checksBind : Bool := true

namespace Drawing

/-- How ports are drawn unless something else is asked for. -/
def usual : Drawing := {}

/-- The same drawing, but from the ports of `[first, bound)`; if there are none, from `first`
alone, as far as there is a port past it. -/
def withRange (d : Drawing) (first bound : UInt16) : Drawing :=
  { d with range := .atLeastOne first bound }

/-- The same drawing, but with a limit of `n` draws; no draw at all counts as one. -/
def withMaxAttempts (d : Drawing) (n : Nat) : Drawing :=
  { d with maxAttempts := max n 1, maxAttempts_pos := by omega }

end Drawing

/-- What is random and what the system decides: for the `n`-th draw of a run, the
random number, and whether a port can be bound at that moment. -/
structure Sampler where
  number : Nat → Nat
  bindable : Nat → UInt16 → Bool

/-- A sampler that takes the ports of a range in turn, those in `late` last, and starts
over at the end. Ports in `blocked` cannot be bound. -/
def Sampler.inTurn (r : PortRange) (late : List Nat) (blocked : List UInt16) : Sampler :=
  let (lateOffsets, earlyOffsets) :=
    (List.range r.size).partition fun offset => late.contains (r.first.toNat + offset)
  let order := (earlyOffsets ++ lateOffsets).toArray
  { number := fun n => order.getD (n % order.size) 0
    bindable := fun _ p => !blocked.contains p }

/-- The ports that have been issued in a run. -/
structure Assigner where
  /-- The port of each workspace that was issued one or had one claimed. -/
  issued : Std.ExtTreeMap LocalId UInt16 := ∅
  drawing : Drawing := .usual
  /-- How many draws have been made. -/
  drawn : Nat := 0

/-- How a request for a port ends. -/
inductive Resolution
  | port (p : UInt16)
  | refused (e : PortError)
  /-- A draw has no port to choose from, and the request ends without an answer. -/
  | aborted
  deriving DecidableEq

/-- The port that is the answer, if the answer is a port. -/
def Resolution.port? : Resolution → Option UInt16
  | .port p => some p
  | _ => none

@[simp] theorem Resolution.port?_eq_some {r : Resolution} {p : UInt16} :
    r.port? = some p ↔ r = .port p := by
  cases r <;> simp [port?]

/-- A request for a port that has ended: how, and what it leaves behind. -/
structure Resolved (σ : Type) where
  result : Resolution
  assigner : Assigner
  store : σ
  logs : List LogLine := []

namespace Assigner

variable {σ : Type}

/-- Whether a port is issued to anybody. -/
def isIssued (a : Assigner) (p : UInt16) : Bool := a.issued.toList.any fun (_, q) => q == p

/-- Another workspace that holds the port, the first in order. -/
def otherHolder? (a : Assigner) (l : LocalId) (p : UInt16) : Option LocalId :=
  (a.issued.toList.find? fun (l', q) => q == p && l' != l).map Prod.fst

/-- Issues a port to a workspace. -/
def issue (a : Assigner) (l : LocalId) (p : UInt16) : Assigner :=
  { a with issued := a.issued.insert l p }

/-- The warning that a pinned port has another holder. -/
def shared (l : LocalId) (p : UInt16) (other : LocalId) : LogLine :=
  .about .warn .ports l.text s!"Configured port {p.toNat} is also used by {other}"

/-- Issues the pinned port of a workspace, whoever else holds it; another holder is
worth a warning. -/
def claim (a : Assigner) (l : LocalId) (p : UInt16) : Assigner × List LogLine :=
  (a.issue l p, ((a.otherHolder? l p).map (shared l p)).toList)

/-- Claims the pinned port of one workspace, if it has one. -/
def reserveOne (ports : PortStore σ) (store : σ) (a : Assigner) (l : LocalId) :
    Assigner × List LogLine :=
  match ports.lookup store l with
  | .ok (some p) => a.claim l p
  | .ok none => (a, [])
  | .error e => (a, [.about .warn .ports l.text s!"Configured port lookup failed: {e.message}"])

/-- Claims the pinned ports of the workspaces, so that no draw for one of them lands
on the port of another. -/
def reserve (ports : PortStore σ) (store : σ) (a : Assigner) : List Workspace →
    Assigner × List LogLine
  | [] => (a, [])
  | w :: ws =>
    let (a, logs) := reserveOne ports store a w.localId
    let (a, moreLogs) := reserve ports store a ws
    (a, logs ++ moreLogs)

/-- Whether the `n`-th draw may be issued if it comes out at this port. -/
def accepts (a : Assigner) (sampler : Sampler) (n : Nat) (p : UInt16) : Bool :=
  !a.isIssued p && (!a.drawing.checksBind || sampler.bindable n p)

/-- The first port accepted in `attempts` draws, the first of which is the `n`-th,
and the number of the draw that would come next. -/
def search (a : Assigner) (sampler : Sampler) : (attempts n : Nat) → Option UInt16 × Nat
  | 0, n => (none, n)
  | attempts + 1, n =>
    let p := a.drawing.range.pick (sampler.number n)
    if a.accepts sampler n p then (some p, n + 1) else search a sampler attempts (n + 1)

/-- The warning that a drawn port could not be saved. -/
def unsaved (l : LocalId) (p : UInt16) (e : StoreUnavailable) : LogLine :=
  .about .warn .ports l.text s!"Failed to save port {p.toNat}: {e.message}"

/-- Draws a port for a workspace, issues it and offers it to the store. -/
def draw (ports : PortStore σ) (sampler : Sampler) (l : LocalId) (a : Assigner) (store : σ) :
    Resolved σ :=
  if a.drawing.range.size = 0 then { result := .aborted, assigner := a, store }
  else
    match a.search sampler a.drawing.maxAttempts a.drawn with
    | (none, n) =>
      { result := .refused (.exhausted a.drawing.maxAttempts)
        assigner := { a with drawn := n }
        store }
    | (some p, n) =>
      let (saved, store) := ports.save store l p
      { result := .port p
        assigner := { a.issue l p with drawn := n }
        store
        logs := match saved with
          | .ok () => []
          | .error e => [unsaved l p e] }

/-- The local port of a workspace. -/
def resolve (ports : PortStore σ) (sampler : Sampler) (l : LocalId) (a : Assigner) (store : σ) :
    Resolved σ :=
  match ports.lookup store l with
  | .error e => { result := .refused (.store e), assigner := a, store }
  | .ok (some p) =>
    let (a, logs) := a.claim l p
    { result := .port p, assigner := a, store, logs }
  | .ok none =>
    match a.issued[l]? with
    | some p => { result := .port p, assigner := a, store }
    | none => a.draw ports sampler l store

end Assigner

end TunnelFleet
