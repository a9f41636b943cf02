/-!
# Faults of the system

The ways in which the operating system refuses an operation on a file or on a
socket, with the texts by which it names them.
-/

namespace TunnelFleet

/-- A refusal by the operating system. -/
inductive Fault
  | notFound
  | exists
  | notADirectory
  | isADirectory
  | nameTooLong
  | addressInUse
  | networkUnreachable
  | connectionRefused
  /-- A path holds the character with code zero. -/
  | nulInPath
  /-- A file that should be text holds bytes that are not. -/
  | notText
  deriving DecidableEq, Inhabited

namespace Fault

/-- A system error with its number. -/
def numbered (text : String) (n : Nat) : String := s!"{text} (os error {n})"

/-- The text that names the fault. -/
def message : Fault → String
  | .notFound => numbered "No such file or directory" 2
  | .exists => numbered "File exists" 17
  | .notADirectory => numbered "Not a directory" 20
  | .isADirectory => numbered "Is a directory" 21
  | .nameTooLong => numbered "File name too long" 36
  | .addressInUse => numbered "Address already in use" 98
  | .networkUnreachable => numbered "Network is unreachable" 101
  | .connectionRefused => numbered "Connection refused" 111
  | .nulInPath => "file name contained an unexpected NUL byte"
  | .notText => "stream did not contain valid UTF-8"

end Fault

end TunnelFleet
