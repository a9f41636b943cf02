/-!
# Retry budgets

How often a workspace may still be reconnected during a run.
-/

namespace TunnelFleet

/-- The reconnections that one workspace has left. -/
structure RetryBudget where
  remaining : Nat
  /-- Whether it was said that none is left. -/
  exhaustionReported : Bool := false
  deriving DecidableEq, Inhabited

namespace RetryBudget

/-- Whether no reconnection is left. -/
def isExhausted (b : RetryBudget) : Bool := b.remaining == 0

/-- Takes one reconnection: how many are left then, if there was one. -/
def consume (b : RetryBudget) : Option Nat × RetryBudget :=
  match b.remaining with
  | 0 => (none, b)
  | n + 1 => (some n, { b with remaining := n })

end RetryBudget

end TunnelFleet
