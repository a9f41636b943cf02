import TunnelFleet.Cli.Perform

/-!
# The program

The outer layer of the command line: it looks at the files that a command may need,
performs the command on that picture of them, and carries the changes out. It opens
no sockets, so `up` prepares the ports and the aliases and holds its run until
standard input ends.
-/

namespace TunnelFleet.Cli

/-- The text of the absolute path of a location. -/
def absolute (l : Location) : String := "/" ++ "/".intercalate l

/-- What stands at a location of the file system. -/
def look (l : Location) : IO (Option Entry) := do
  match ← (IO.FS.readBinFile (absolute l)).toBaseIO with
  | .ok content => return some (.file content)
  | .error _ =>
    match ← (IO.FS.realPath (absolute l)).toBaseIO with
    | .ok path => return if ← path.isDir then some .directory else none
    | .error _ => return none

/-- Adds the entries that a path leads along, and tells where it ends. -/
def gatherAlong (t : FileTree) (p : Path) : IO (FileTree × Location) := do
  let (start, pieces) := t.origin p
  let mut t := t
  let mut here := start
  for piece in pieces do
    if piece == ".." then here := here.dropLast
    else if !Path.isIdle piece then
      here := here ++ [piece]
      if let some entry ← look here then t := t.put here entry
  return (t, here)

/-- Adds the entry at a location and everything below it. -/
partial def gatherBelow (t : FileTree) (l : Location) : IO FileTree := do
  match ← look l with
  | none => return t
  | some (.file content) => return t.put l (.file content)
  | some .directory =>
    let mut t := t.put l .directory
    for entry in ← (← IO.FS.realPath (absolute l)).readDir do
      t ← gatherBelow t (l ++ [entry.fileName])
    return t

/-- Adds a path and everything below its end. -/
def gather (t : FileTree) (p : Path) : IO FileTree := do
  let (t, l) ← gatherAlong t p
  gatherBelow t l

/-- The files that a command may need. -/
def picture (place : Place) (c : Command) : IO FileTree := do
  let working := Path.ofText (← IO.currentDir).toString
  let (t, here) ← gatherAlong {} working
  let mut t := { t with workingDirectory := here }
  let .ok state := place.stateDirectory | return t
  t ← gather t state
  if let .up options := c then
    if let some directory := place.keyDirectory then
      for name in KeyFiles.usualNames do
        t := (← gatherAlong t (directory.child name)).1
    if let some key := options.identity then
      t := (← gatherAlong t (.ofText key)).1
    if let .ok { privateKey := some key, .. } :=
        (SettingsFile.mk (state.child "config.json")).load t then
      t := (← gatherAlong t (.ofText key)).1
  return t

/-- Carries out what changes one picture of the files into another. -/
def carryOut (before after : FileTree) : IO Unit := do
  for (l, _) in before.entries.toList do
    if (after.lookup? l).isNone then IO.FS.removeFile (absolute l)
  for (l, entry) in after.entries.toList do
    if before.lookup? l ≠ some entry then
      match entry with
      | .directory => IO.FS.createDirAll (absolute l)
      | .file content => IO.FS.writeBinFile (absolute l) content

/-- Reads lines until there are no more. -/
partial def awaitEnd (input : IO.FS.Stream) : IO Unit := do
  unless (← input.getLine).isEmpty do awaitEnd input

/-- Chance as it comes from a seed. No port is bound, so every port counts as free. -/
def samplerOf (seed : Nat) : Sampler where
  number n := (stdNext (mkStdGen (seed + 7919 * n))).1
  bindable _ _ := true

/-- Performs a command, tells what came of it and answers its exit code. -/
def execute (place : Place) (c : Command) : IO UInt32 := do
  let before ← picture place c
  let (outcome, after) := place.perform c before
  carryOut before after
  for line in outcome.logs do IO.println line.long
  IO.print outcome.output
  if let some failure := outcome.failure then IO.eprint failure.report
  if outcome.running.isSome then awaitEnd (← IO.getStdin)
  return UInt32.ofNat outcome.code

end TunnelFleet.Cli

open TunnelFleet TunnelFleet.Cli in
/-- The command line program. -/
def main (args : List String) : IO UInt32 := do
  let names := ["PORTFLEET_RETRIES", "PORTFLEET_PROBE_TIMEOUT", "PORTFLEET_USER", "PORTFLEET_IDENTITY"]
  let values ← names.mapM fun name => do return (name, ← IO.getEnv name)
  let environment name := (values.lookup name).join
  match Command.read? environment args with
  | none =>
    IO.eprintln "error: these arguments ask for no command"
    return 2
  | some c =>
    let home := (← IO.getEnv "HOME").filter (· != "")
    let seed ← IO.rand 0 (UInt32.size - 1)
    execute ⟨home.map Path.ofText, samplerOf seed⟩ c
