import TunnelFleet.Workspace.LocalId

/-!
# Fatal signals

Sessions report fatal errors into a mailbox with room for one signal. While one is
waiting, further reports are coalesced with it: each signal asks for a check of all
workspaces, so one is enough.
-/

namespace TunnelFleet

/-- A fatal error, with the workspace that it is attributed to if that is known. -/
structure Signal where
  localId : Option LocalId
  error : String
  deriving DecidableEq, Inhabited

/-- A mailbox for one signal. -/
structure Mailbox where
  /-- The signal that waits to be received. -/
  pending : Option Signal := none
  /-- Whether the receiver has gone away for good. -/
  abandoned : Bool := false
  deriving DecidableEq, Inhabited

namespace Mailbox

/-- Reports a signal. The answer tells whether the mailbox took it. -/
def report (m : Mailbox) (s : Signal) : Bool × Mailbox :=
  if m.abandoned || m.pending.isSome then (false, m) else (true, { m with pending := some s })

/-- Takes the waiting signal out. -/
def receive (m : Mailbox) : Option Signal × Mailbox := (m.pending, { m with pending := none })

/-- The receiver goes away, and the waiting signal with it. -/
def abandon (_ : Mailbox) : Mailbox := { pending := none, abandoned := true }

end Mailbox

end TunnelFleet
