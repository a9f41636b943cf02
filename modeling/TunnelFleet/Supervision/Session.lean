import TunnelFleet.Workspace.Basic

/-!
# Tunnel sessions

A session is one attempt to keep the tunnel of a workspace open. A provider runs it
until its token is cancelled, its stream ends or it fails.
-/

namespace TunnelFleet

/-- One session of a tunnel, as a provider is given it. The number of the session
is also the number of the token that it listens to. -/
structure Session where
  number : Nat
  workspace : Workspace
  port : UInt16
  deriving DecidableEq, Inhabited

/-- The local id of the session's workspace. -/
def Session.localId (s : Session) : LocalId := s.workspace.localId

/-- Why a provider could not go on with a session. -/
inductive ProviderError
  | bind (port : UInt16) (reason : String)
  | unreachable (address reason : String)
  | io (reason : String)
  deriving DecidableEq

/-- What the user is told. -/
def ProviderError.message : ProviderError → String
  | .bind port reason => s!"Failed to bind local port {port.toNat}: {reason}"
  | .unreachable address reason => s!"Upstream {address} unreachable: {reason}"
  | .io reason => s!"IO error: {reason}"

/-- How a session ended: its stream ended, or it failed. -/
abbrev Ending := Except ProviderError Unit

/-- Why a session that nobody cancelled is over. -/
def Ending.reason : Ending → String
  | .ok () => "stream ended unexpectedly"
  | .error e => e.message

end TunnelFleet
