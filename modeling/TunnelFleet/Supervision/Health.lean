import TunnelFleet.Storage.KeyFiles
import TunnelFleet.Text.Duration

/-!
# Health probes

A probe finds out whether one can still get into a workspace: it dials the SSH
service, and only if somebody answers does it look for the private key and
authenticate.
-/

namespace TunnelFleet

/-- Why a probe failed. -/
inductive ProbeError
  | dial (reason : String)
  | timeout (limit : Duration)
  | credential (e : CredentialError)
  | key (reason : String)
  | auth (reason : String)
  deriving DecidableEq

/-- What the user is told. -/
def ProbeError.message : ProbeError → String
  | .dial reason => s!"Dial failed: {reason}"
  | .timeout limit => s!"Probe timed out after {limit.text}"
  | .credential e => s!"Credential error: {e.message}"
  | .key reason => s!"Key error: {reason}"
  | .auth reason => s!"Authentication failed: {reason}"

/-- The verdict of a probe. -/
inductive Verdict
  | healthy
  | unhealthy (reason : Option String)
  deriving DecidableEq, Inhabited

namespace Verdict

/-- Whether the workspace is well. -/
def isHealthy : Verdict → Bool
  | .healthy => true
  | .unhealthy _ => false

/-- Why the workspace is not well, if that is known. -/
def reason? : Verdict → Option String
  | .healthy => none
  | .unhealthy reason => reason

/-- The verdict of a probe that ended in this way. -/
def ofProbe : Except ProbeError Unit → Verdict
  | .ok () => .healthy
  | .error e => .unhealthy (some e.message)

end Verdict

/-- What a probe meets on its way into a workspace. -/
structure ProbeCourse where
  dial : Except ProbeError Unit
  credentials : Except CredentialError Path
  key : Except ProbeError Unit
  auth : Except ProbeError Unit

/-- The verdict on what a probe met. Each stage is reached only if the ones before it
went well, so the first failure is the one that is told. -/
def ProbeCourse.verdict (c : ProbeCourse) : Verdict :=
  .ofProbe do
    c.dial
    let _ ← c.credentials.mapError ProbeError.credential
    c.key
    c.auth

end TunnelFleet
