import TunnelFleet.Cli.Arguments
import TunnelFleet.Cli.Failure
import TunnelFleet.Ports.Alias
import TunnelFleet.Storage.KeyFiles
import TunnelFleet.Storage.PortFile
import TunnelFleet.Storage.Settings
import TunnelFleet.Storage.WorkspaceFiles
import TunnelFleet.Supervision.Run

/-!
# Performing commands

What a command does to the files below the user's home directory, and what it says.
All state lives in one directory: the settings, the pinned ports, the workspaces and
the managed ssh config.
-/

namespace TunnelFleet.Cli

/-- The place of a user: the home directory, if there is one, and what chance and the
system have in store. -/
structure Place where
  home : Option Path
  sampler : Sampler

/-- What a command comes to. -/
structure Outcome where
  failure : Option Failure := none
  /-- What is written to standard output. -/
  output : String := ""
  logs : List LogLine := []
  /-- The run that `up` has begun and its supervisor, until they are told to stop. -/
  running : Option (Run × Supervisor FileTree) := none

namespace Outcome

/-- A command that says some lines. -/
def lines (ls : List String) : Outcome := { output := String.join (ls.map (· ++ "\n")) }

/-- A command that fails. -/
def failed (f : Failure) : Outcome := { failure := some f }

/-- The exit code of the command. -/
def code (o : Outcome) : Nat := if o.failure.isSome then 1 else 0

end Outcome

namespace Place

/-- The directory that holds all state. -/
def stateDirectory (p : Place) : Except StoreError Path :=
  match p.home with
  | some home => .ok (home.join (.ofText ".portfleet"))
  | none => .error .homeMissing

/-- The directory in which the user keeps keys. -/
def keyDirectory (p : Place) : Option Path := p.home.map (·.join (.ofText ".ssh"))

end Place

/-- What is known of an entry's status and address in a listing. -/
def workspaceLine (w : Workspace) : String :=
  let status := w.status.name
  let padding := String.ofList (List.replicate (10 - status.length) ' ')
  s!"{w.localId} {status}{padding} {w.address}"

/-- A pinned port in a listing. -/
def portLine (l : LocalId) (port : UInt16) : String :=
  let padding := String.ofList (List.replicate (24 - l.text.length) ' ')
  s!"{l}{padding} {port.toNat}"

/-- Performs a command on the stored workspaces. -/
def onWorkspaces (directory : Path) (t : FileTree)
    (act : WorkspaceFiles → FileTree → Outcome × FileTree) : Outcome × FileTree :=
  match WorkspaceFiles.create (directory.child "workspaces") t with
  | (.error e, t) => (.failed (.ofStore e), t)
  | (.ok files, t) => act files t

/-- Adds or changes a workspace. -/
def addWorkspace (w : Workspace) (files : WorkspaceFiles) (t : FileTree) : Outcome × FileTree :=
  match files.save w t with
  | (.error e, t) => (.failed (.ofStore e), t)
  | (.ok l, t) => (.lines [s!"✅ Workspace '{l}' saved"], t)

/-- Lists workspaces. -/
def listWorkspaces (scope : Scope) (files : WorkspaceFiles) (t : FileTree) : Outcome :=
  let (result, logs) := files.list t
  match result with
  | .error e => { Outcome.failed (.ofStore e) with logs }
  | .ok ws =>
    let shown := ws.filter scope.includes
    let said :=
      if shown.isEmpty then [s!"No workspaces found in {files.directory.quoted}"]
      else shown.map workspaceLine
    { Outcome.lines said with logs }

/-- Removes a workspace. -/
def removeWorkspace (l : LocalId) (files : WorkspaceFiles) (t : FileTree) : Outcome × FileTree :=
  match files.remove l t with
  | (.error e, t) => (.failed (.ofStore e), t)
  | (.ok (), t) => (.lines [s!"✅ Workspace '{l}' removed"], t)

/-- Pins a port. -/
def setPort (l : LocalId) (port : UInt16) (file : PortFile) (t : FileTree) : Outcome × FileTree :=
  match file.set l port t with
  | (.error e, t) => (.failed (.ofStore e), t)
  | (.ok (), t) => (.lines [s!"✅ {l} pinned to 127.0.0.1:{port.toNat}"], t)

/-- Removes the pin of a port. -/
def clearPort (l : LocalId) (file : PortFile) (t : FileTree) : Outcome × FileTree :=
  match file.remove l t with
  | (.error e, t) => (.failed (.ofStore e), t)
  | (.ok true, t) => (.lines [s!"✅ {l} unpinned"], t)
  | (.ok false, t) => (.lines [s!"{l} has no pinned port"], t)

/-- Lists the pinned ports. -/
def listPorts (file : PortFile) (t : FileTree) : Outcome :=
  match file.list t with
  | .error e => .failed (.ofStore e)
  | .ok pins =>
    .lines (if pins.isEmpty then ["No pinned ports"] else pins.toList.map fun (l, p) => portLine l p)

/-- Shows the settings. -/
def showSettings (file : SettingsFile) (t : FileTree) : Outcome :=
  match file.load t with
  | .error e => .failed (.ofStore e)
  | .ok settings => .lines [s!"Config file: {file.path.quoted}", settings.text]

/-- Sets the user. -/
def setUser (user : String) (file : SettingsFile) (t : FileTree) : Outcome × FileTree :=
  match file.setUser user t with
  | (.error e, t) => (.failed (.ofStore e), t)
  | (.ok (), t) => (.lines [s!"✅ SSH user set to '{user}'"], t)

/-- Sets or clears the private key. -/
def setIdentity (key : Option String) (file : SettingsFile) (t : FileTree) : Outcome × FileTree :=
  match file.setIdentity key t with
  | (.error e, t) => (.failed (.ofStore e), t)
  | (.ok (), t) =>
    match key with
    | some path =>
      let shown := Text.quoted path
      (.lines [s!"✅ Private key set to {shown}"], t)
    | none => (.lines ["✅ Private key cleared, ~/.ssh keys will be searched"], t)

/-- How the user reaches the tunnels. -/
def connectionHint (config : SshConfig) (entries : List HostEntry) : List String :=
  ["Add this line to the top of ~/.ssh/config (once):", "", "  " ++ config.includeLine, "",
    "Connect with:"] ++
  entries.map (fun e => s!"  ssh {e.localId}    # 127.0.0.1:{e.port.toNat}") ++ [""]

/-- Why a run is over, if it failed. -/
def runFailure? (r : Run) : Option Failure :=
  match r.phase with
  | .done (.error (.preflight e)) =>
    some (Failure.during ⟨(RunError.preflight e).message, [e.message]⟩ "Tunnel supervisor failed")
  | _ => none

/-- Gives every workspace a port and an alias and begins a run with them. -/
def raise (place : Place) (directory : Path) (retryBudget : Nat) (user : String)
    (keys : KeyFiles) (key : Path) (ws : List Workspace) (t : FileTree) : Outcome × FileTree :=
  let ports := (PortFile.mk (directory.child "ports.json")).asStore
  let found := ({} : Assigner).aliases ports place.sampler ws t
  let config : SshConfig := ⟨directory.child "ssh_config", user, some key⟩
  match config.sync found.entries found.store with
  | (.error e, t, logs) =>
    ({ Outcome.failed ((Failure.ofStore e).during "Failed to write ssh config") with
        logs := found.logs ++ logs }, t)
  | (.ok (), t, logs) =>
    let setup : Setup FileTree := { ports, sampler := place.sampler, retryBudget }
    let (run, supervisor) :=
      Run.begin setup { credentials := keys.find t, workspaces := ws }
        { store := t, assigner := found.assigner }
    ({ Outcome.lines (connectionHint config found.entries) with
        failure := runFailure? run
        logs := found.logs ++ logs ++ supervisor.logs
        running := if run.isWaiting then some (run, supervisor) else none },
      supervisor.store)

/-- Starts the tunnels of all running workspaces. -/
def up (place : Place) (options : UpOptions) (directory : Path) (t : FileTree) :
    Outcome × FileTree :=
  match (SettingsFile.mk (directory.child "config.json")).load t with
  | .error e => (.failed ((Failure.ofStore e).during "Failed to load configuration"), t)
  | .ok settings =>
    let user := options.user.getD settings.sshUser
    let retryBudget := (options.retries.getD settings.retryBudget).toNat
    let keys : KeyFiles :=
      ⟨(options.identity <|> settings.privateKey).map Path.ofText, place.keyDirectory⟩
    match keys.find t with
    | .error e =>
      (.failed (Failure.during ⟨e.message, []⟩
        "No usable private key (set one with \x60portfleet config set-identity\x60)"), t)
    | .ok key =>
      onWorkspaces directory t fun files t =>
        let (result, logs) := files.listScope .running t
        match result with
        | .error e =>
          ({ Outcome.failed (Failure.during ⟨e.message, []⟩ "Failed to list workspaces") with logs }, t)
        | .ok [] => ({ Outcome.lines ["No running workspaces."] with logs }, t)
        | .ok ws =>
          let (outcome, t) := raise place directory retryBudget user keys key ws t
          ({ outcome with logs := logs ++ outcome.logs }, t)

/-- Performs a command for the user of a place. -/
def Place.perform (place : Place) (c : Command) (t : FileTree) : Outcome × FileTree :=
  match place.stateDirectory with
  | .error e => (.failed (.ofStore e), t)
  | .ok directory =>
    let ports : PortFile := ⟨directory.child "ports.json"⟩
    let settings : SettingsFile := ⟨directory.child "config.json"⟩
    match c with
    | .up options => up place options directory t
    | .addWorkspace w => onWorkspaces directory t (addWorkspace w)
    | .listWorkspaces scope =>
      onWorkspaces directory t fun files t => (listWorkspaces scope files t, t)
    | .removeWorkspace l => onWorkspaces directory t (removeWorkspace l)
    | .setPort l port => setPort l port ports t
    | .clearPort l => clearPort l ports t
    | .listPorts => (listPorts ports t, t)
    | .showSettings => (showSettings settings t, t)
    | .setUser user => setUser user settings t
    | .setIdentity key => setIdentity key settings t

end TunnelFleet.Cli
