import TunnelFleet.Supervision.Token
import TunnelFleet.Workspace.Basic

/-!
# Tunnel handles

A handle stands for one session of a workspace's tunnel. Closing it cancels the
session's token. Only the first close counts, also if the token was cancelled by
other means before.
-/

namespace TunnelFleet

/-- A handle on one tunnel session. -/
structure Handle where
  workspace : Workspace
  port : UInt16
  /-- The number of the token that the session listens to. -/
  token : Nat
  /-- The number of the session; zero until the handle is registered. -/
  session : Nat := 0
  /-- Whether the handle itself was closed. -/
  closed : Bool := false
  deriving DecidableEq, Inhabited

namespace Handle

/-- The local id of the handle's workspace. -/
def localId (h : Handle) : LocalId := h.workspace.localId

/-- Whether the session is over: the handle was closed, or its token is cancelled. -/
def isClosed (h : Handle) (t : Tokens) : Bool := h.closed || t.isCancelled h.token

/-- The handle once it is closed. -/
def shut (h : Handle) : Handle := { h with closed := true }

/-- The tokens once the handle is closed: closing it again cancels nothing. -/
def release (h : Handle) (t : Tokens) : Tokens := if h.closed then t else t.cancel h.token

/-- Closes a handle. The answer tells whether it was not closed before. -/
def close (h : Handle) (t : Tokens) : Bool × Handle × Tokens := (!h.closed, h.shut, h.release t)

end Handle

end TunnelFleet
