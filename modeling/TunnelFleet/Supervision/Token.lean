/-!
# Cancellation

Every tunnel session listens to a token. The tokens of a run hang from one root:
cancelling the root cancels them all, and nothing revives a cancelled token.
-/

namespace TunnelFleet

/-- The cancellation state of numbered tokens below one root. -/
structure Tokens where
  rootCancelled : Bool := false
  /-- The tokens that were cancelled by themselves. -/
  cancelled : List Nat := []
  deriving DecidableEq, Inhabited

namespace Tokens

/-- Whether a token is cancelled, by itself or through the root. -/
def isCancelled (t : Tokens) (n : Nat) : Bool := t.rootCancelled || t.cancelled.contains n

/-- Cancels one token. -/
def cancel (t : Tokens) (n : Nat) : Tokens := { t with cancelled := n :: t.cancelled }

/-- Cancels every token. -/
def cancelRoot (t : Tokens) : Tokens := { t with rootCancelled := true }

@[simp] theorem isCancelled_cancel (t : Tokens) (n m : Nat) :
    (t.cancel n).isCancelled m = (m == n || t.isCancelled m) := by
  simp only [isCancelled, cancel, List.contains_cons]
  cases t.rootCancelled <;> cases (m == n) <;> simp

@[simp] theorem isCancelled_cancelRoot (t : Tokens) (n : Nat) :
    t.cancelRoot.isCancelled n = true := by
  simp [isCancelled, cancelRoot]

@[simp] theorem rootCancelled_cancel (t : Tokens) (n : Nat) :
    (t.cancel n).rootCancelled = t.rootCancelled := rfl

end Tokens

end TunnelFleet
