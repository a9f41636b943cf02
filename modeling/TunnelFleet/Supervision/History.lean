import TunnelFleet.Supervision.Registry
import TunnelFleet.Supervision.Signal

/-!
# What happens in a run

The state of a supervisor says how things stand, not how they came about. A history
lists what was decided, asked for and reported, in order, so that one can say how
often something happened and what came after what.
-/

namespace TunnelFleet

/-- Who asked for a pass over all workspaces. -/
inductive Asker
  | caller
  | healthLoop
  deriving DecidableEq

/-- Something that happened in a run. -/
inductive Happening
  /-- A local id got its retry budget. -/
  | budgeted (l : LocalId) (attempts : Nat)
  /-- A start counted a workspace as started. -/
  | counted (w : Workspace)
  /-- A local id was reset, with this decision. -/
  | decided (l : LocalId) (decision : ResetDecision)
  | probed (asker : Asker) (w : Workspace)
  /-- A signal was reported; the mailbox may have taken it or not. -/
  | reported (signal : Signal) (taken : Bool)
  | received (signal : Signal)
  /-- The health loop settled which workspaces it probes. -/
  | surveyed (ws : List Workspace)
  /-- The health loop came to the end of a pass. -/
  | passEnded
  deriving DecidableEq

namespace Happening

/-- The attempts that a local id was given. -/
def attempts? (l : LocalId) : Happening → Option Nat
  | .budgeted k attempts => if k = l then some attempts else none
  | _ => none

/-- The workspace that a start counted. -/
def counted? : Happening → Option Workspace
  | .counted w => some w
  | _ => none

/-- Whether a reset of this local id was granted a retry. -/
def grants (l : LocalId) : Happening → Bool
  | .decided k (.retry _) => k == l
  | _ => false

/-- The workspace that was probed for somebody. -/
def probed? (asker : Asker) : Happening → Option Workspace
  | .probed who w => if who = asker then some w else none
  | _ => none

/-- The signal that the mailbox took. -/
def taken? : Happening → Option Signal
  | .reported signal true => some signal
  | _ => none

/-- The signal that the health loop received. -/
def received? : Happening → Option Signal
  | .received signal => some signal
  | _ => none

end Happening

end TunnelFleet
