import TunnelFleet.Text.Decimal
import TunnelFleet.Workspace.Basic

/-!
# The command line

A command line is a path of subcommands with switches and values between them. This
module says which command an argument list asks for. All that can be wrong with an
argument list is one and the same usage error.
-/

namespace TunnelFleet.Cli

/-- What the user can set for one `up`. -/
structure UpOptions where
  retries : Option UInt32 := none
  probeTimeout : Option UInt64 := none
  user : Option String := none
  identity : Option String := none
  deriving DecidableEq

/-- A command. -/
inductive Command
  | up (options : UpOptions)
  | addWorkspace (w : Workspace)
  | listWorkspaces (scope : Scope)
  | removeWorkspace (l : LocalId)
  | setPort (l : LocalId) (port : UInt16)
  | clearPort (l : LocalId)
  | listPorts
  | showSettings
  | setUser (user : String)
  | setIdentity (path : Option String)
  deriving DecidableEq

/-! ## Switches and values -/

/-- A switch: its long name, its letter if it has one, and whether a value follows. -/
structure Switch where
  name : String
  letter : Option Char := none
  takesValue : Bool := true
  deriving DecidableEq

/-- What stands on the command line at one level: switches with their values, and
values that stand alone, in order. -/
structure Given where
  switches : List (Switch × String) := []
  values : List String := []

/-- Adds a switch, which may be given once. -/
def Given.add? (g : Given) (s : Switch) (value : String) : Option Given :=
  if g.switches.any (·.1 == s) then none
  else some { g with switches := g.switches ++ [(s, value)] }

/-- The value of a switch, if it was given. -/
def Given.value? (g : Given) (s : Switch) : Option String :=
  (g.switches.find? (·.1 == s)).map (·.2)

/-- Whether an argument would be read as a switch. A single hyphen is a value. -/
def looksLikeSwitch (arg : List Char) : Bool := arg.head? == some '-' && 2 ≤ arg.length

/-- The next argument as the value of a switch. -/
def takeValue? : List String → Option (String × List String)
  | value :: rest => if looksLikeSwitch value.toList then none else some (value, rest)
  | [] => none

/-- Reads an argument of letters after one hyphen. The value of a letter stands after
it, with or without an equals sign, or is the next argument. -/
def readLetters (known : List Switch) (g : Given) :
    List Char → List String → Option (Given × List String)
  | [], rest => some (g, rest)
  | c :: cs, rest =>
    match known.find? (·.letter == some c) with
    | none => none
    | some s =>
      if s.takesValue then
        match cs with
        | [] => do
          let (value, rest) ← takeValue? rest
          return (← g.add? s value, rest)
        | '=' :: value => (g.add? s (String.ofList value)).map (·, rest)
        | value => (g.add? s (String.ofList value)).map (·, rest)
      else
        match g.add? s "" with
        | some g => readLetters known g cs rest
        | none => none

/-- Reads an argument that spells a switch after two hyphens. Its value stands after an
equals sign or is the next argument. -/
def readName (known : List Switch) (g : Given) (arg : List Char) (rest : List String) :
    Option (Given × List String) := do
  let (name, after) := arg.span (· != '=')
  let s ← known.find? (·.name == String.ofList name)
  match after with
  | '=' :: value => if s.takesValue then (g.add? s (String.ofList value)).map (·, rest) else none
  | _ =>
    if s.takesValue then
      let (value, rest) ← takeValue? rest
      return (← g.add? s value, rest)
    else return (← g.add? s "", rest)

/-- Where the reading of one level stops: at its end, or at a subcommand. -/
inductive Stop
  | finished (g : Given)
  | subcommand (g : Given) (name : String) (rest : List String)

/-- Reads one level of the command line. With `nested` the first value is the name of
a subcommand, and what follows belongs to the next level; otherwise all values belong
here, and after a double hyphen everything is a value. Each round takes an argument,
so `fuel` is their number. -/
def readLevel (known : List Switch) (nested : Bool) :
    (fuel : Nat) → Given → List String → Option Stop
  | _, g, [] => some (.finished g)
  | 0, _, _ :: _ => none
  | fuel + 1, g, arg :: rest =>
    match arg.toList with
    | ['-', '-'] => if nested then none else some (.finished { g with values := g.values ++ rest })
    | '-' :: '-' :: name => do
      let (g, rest) ← readName known g name rest
      readLevel known nested fuel g rest
    | '-' :: c :: cs => do
      let (g, rest) ← readLetters known g (c :: cs) rest
      readLevel known nested fuel g rest
    | _ =>
      if nested then some (.subcommand g arg rest)
      else readLevel known nested fuel { g with values := g.values ++ [arg] } rest

/-! ## The commands -/

/-- The switch for more log lines, which every level takes. -/
def verbose : Switch := { name := "verbose", letter := some 'v', takesValue := false }

def retriesSwitch : Switch := { name := "retries" }
def probeTimeoutSwitch : Switch := { name := "probe-timeout" }
def userSwitch : Switch := { name := "user" }
def identitySwitch : Switch := { name := "identity", letter := some 'i' }
def statusSwitch : Switch := { name := "status" }
def allSwitch : Switch := { name := "all", takesValue := false }

/-- The subcommand that a level names, and the arguments after it. -/
def subcommand? (args : List String) : Option (String × List String) :=
  match readLevel [verbose] true args.length {} args with
  | some (.subcommand _ name rest) => some (name, rest)
  | _ => none

/-- What is given to a command that has no subcommands. -/
def given? (known : List Switch) (args : List String) : Option Given :=
  match readLevel (verbose :: known) false args.length {} args with
  | some (.finished g) => some g
  | _ => none

/-- A path is not empty. -/
def readPath? (text : String) : Option String := if text == "" then none else some text

/-- A value that may be missing, but has to be readable. -/
def optional {α : Type} (read : String → Option α) : Option String → Option (Option α)
  | none => some none
  | some text => (read text).map some

/-- A number of retries. -/
def readRetries? (text : String) : Option UInt32 :=
  (Text.readSigned (UInt32.size - 1) text.toList).map UInt32.ofNat

/-- A number of seconds. -/
def readSeconds? (text : String) : Option UInt64 :=
  (Text.readUnsigned (UInt64.size - 1) text.toList).map UInt64.ofNat

/-- A port. -/
def readPort? (text : String) : Option UInt16 :=
  (Text.readSigned (UInt16.size - 1) text.toList).map UInt16.ofNat

/-- A status that can be given by hand: any but the unknown one. -/
def readStatus? (text : String) : Option Status :=
  match Status.ofName? text with
  | some .unknown => none
  | status => status

/-- The options of `up`: what is not on the command line may be in the environment. -/
def readUp? (environment : String → Option String) (args : List String) : Option Command := do
  let g ← given? [retriesSwitch, probeTimeoutSwitch, userSwitch, identitySwitch] args
  if g.values ≠ [] then none
  let value (s : Switch) (variableName : String) := g.value? s <|> environment variableName
  return .up {
    retries := ← optional readRetries? (value retriesSwitch "PORTFLEET_RETRIES")
    probeTimeout := ← optional readSeconds? (value probeTimeoutSwitch "PORTFLEET_PROBE_TIMEOUT")
    user := value userSwitch "PORTFLEET_USER"
    identity := ← optional readPath? (value identitySwitch "PORTFLEET_IDENTITY") }

/-- The commands on workspaces. -/
def readWorkspace? (args : List String) : Option Command := do
  let (name, rest) ← subcommand? args
  match name with
  | "add" =>
    let g ← given? [statusSwitch] rest
    let status ← optional readStatus? (g.value? statusSwitch)
    match g.values with
    | [name, id, address] =>
      return .addWorkspace { id, name, address, status := status.getD .running }
    | _ => none
  | "list" =>
    let g ← given? [allSwitch] rest
    match g.values with
    | [] => return .listWorkspaces (if (g.value? allSwitch).isSome then .all else .running)
    | _ => none
  | "remove" =>
    match (← given? [] rest).values with
    | [l] => return .removeWorkspace ⟨l⟩
    | _ => none
  | _ => none

/-- The commands on pinned ports. -/
def readPortCommand? (args : List String) : Option Command := do
  let (name, rest) ← subcommand? args
  match name, (← given? [] rest).values with
  | "set", [l, port] => return .setPort ⟨l⟩ (← readPort? port)
  | "clear", [l] => return .clearPort ⟨l⟩
  | "list", [] => return .listPorts
  | _, _ => none

/-- The commands on the settings. -/
def readSettings? (args : List String) : Option Command := do
  let (name, rest) ← subcommand? args
  match name, (← given? [] rest).values with
  | "show", [] => return .showSettings
  | "set-user", [user] => return .setUser user
  | "set-identity", [] => return .setIdentity none
  | "set-identity", [path] => return .setIdentity (some (← readPath? path))
  | _, _ => none

/-- The command that the arguments ask for, in an environment of named values. -/
def Command.read? (environment : String → Option String) (args : List String) :
    Option Command := do
  let (name, rest) ← subcommand? args
  match name with
  | "up" => readUp? environment rest
  | "workspace" => readWorkspace? rest
  | "port" => readPortCommand? rest
  | "config" => readSettings? rest
  | _ => none

end TunnelFleet.Cli
