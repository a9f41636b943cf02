import TunnelFleet.Workspace.Address
import TunnelFleet.Workspace.LocalId

/-!
# Workspaces

A workspace is a remote machine to which a tunnel can be opened. The directory of
workspaces supplies it once, and it does not change during a run.
-/

namespace TunnelFleet

/-- The life cycle of a workspace, as the directory reports it. -/
inductive Status
  | running
  | starting
  | deploying
  | stopped
  | unknown
  deriving DecidableEq, Inhabited

namespace Status

/-- Every status, in the order of declaration. -/
def all : List Status := [.running, .starting, .deploying, .stopped, .unknown]

/-- The word for a status. -/
def name : Status → String
  | .running => "running"
  | .starting => "starting"
  | .deploying => "deploying"
  | .stopped => "stopped"
  | .unknown => "unknown"

/-- The status that a word stands for. -/
def ofName? (word : String) : Option Status := all.find? (·.name == word)

@[simp] theorem ofName?_name (s : Status) : ofName? s.name = some s := by
  cases s <;> decide +kernel

end Status

/-- A remote machine to which a tunnel can be opened. -/
structure Workspace where
  /-- The id under which the directory knows the workspace. -/
  id : String
  /-- The name that people gave it. -/
  name : String
  /-- Its network address, a host with or without a port. -/
  address : String
  /-- Its status when the directory was read. -/
  status : Status := .running
  deriving DecidableEq, Inhabited

namespace Workspace

/-- The name by which the workspace is known on this machine. -/
def localId (w : Workspace) : LocalId := .ofNameAndId w.name w.id

/-- Where the workspace's SSH service listens: the port of the address if it names
one, else `remotePort`. -/
def sshAddress (w : Workspace) (remotePort : UInt16) : String :=
  Address.withPort w.address remotePort

/-- The port of SSH services that do not name another. -/
def defaultRemotePort : UInt16 := 22

end Workspace

/-- Which workspaces a listing shows. -/
inductive Scope
  | running
  | all
  deriving DecidableEq

namespace Scope

/-- A listing shows the running workspaces unless it is told otherwise. -/
instance : Inhabited Scope := ⟨.running⟩

/-- Whether a listing of this scope shows the workspace. -/
def includes : Scope → Workspace → Bool
  | .running, w => w.status == .running
  | .all, _ => true

end Scope

end TunnelFleet
