import TunnelFleet.Log
import TunnelFleet.Storage.Error
import TunnelFleet.Workspace.Codec

/-!
# The workspace directory

Every known workspace has a file of its own, named after its local id. A listing
passes over the files that spell no workspace, with a warning for each, and gives
up at the first that cannot be read.
-/

namespace TunnelFleet

/-- A directory of workspaces could not answer. -/
structure DirectoryUnavailable where
  reason : String
  deriving DecidableEq, Inhabited

/-- What the user is told. -/
def DirectoryUnavailable.message (e : DirectoryUnavailable) : String :=
  s!"Directory unavailable: {e.reason}"

/-- A directory that holds one file for each workspace. -/
structure WorkspaceFiles where
  directory : Path

namespace WorkspaceFiles

/-- The extension of the files that hold workspaces. -/
def extension : String := "json"

/-- Makes the directory, if it is missing. -/
def create (directory : Path) (t : FileTree) : Except StoreError WorkspaceFiles × FileTree :=
  match t.createDirectory directory with
  | (.error fault, t) => (.error (.ofFault directory fault), t)
  | (.ok (), t) => (.ok ⟨directory⟩, t)

/-- The file of a workspace. -/
def file (d : WorkspaceFiles) (l : LocalId) : Path :=
  d.directory.child (l.text ++ "." ++ extension)

/-- The workspace that a file spells. -/
def read (p : Path) (t : FileTree) : Except StoreError Workspace :=
  match t.loadText p with
  | .error e => .error e
  | .ok text =>
    match Workspace.parse? text with
    | some w => .ok w
    | none => .error (.malformed p)

/-- Writes the file of a workspace, and tells its local id. -/
def save (d : WorkspaceFiles) (w : Workspace) (t : FileTree) :
    Except StoreError LocalId × FileTree :=
  match w.localId.check with
  | .error e => (.error e, t)
  | .ok () =>
    match t.writeText (d.file w.localId) w.toJson.pretty with
    | .error fault => (.error (.ofFault (d.file w.localId) fault), t)
    | .ok t => (.ok w.localId, t)

/-- The workspace stored under a local id. -/
def load (d : WorkspaceFiles) (l : LocalId) (t : FileTree) : Except StoreError Workspace :=
  match l.check with
  | .error e => .error e
  | .ok () => if t.has (d.file l) then read (d.file l) t else .error (.notFound l.text)

/-- Removes the file of a workspace. -/
def remove (d : WorkspaceFiles) (l : LocalId) (t : FileTree) : Except StoreError Unit × FileTree :=
  match l.check with
  | .error e => (.error e, t)
  | .ok () =>
    if t.has (d.file l) then
      match t.remove (d.file l) with
      | .error fault => (.error (.ofFault (d.file l) fault), t)
      | .ok t => (.ok (), t)
    else (.error (.notFound l.text), t)

/-- The warning about a file that is passed over. -/
def skipped (e : StoreError) : LogLine :=
  ⟨.warn, .workspaceFiles, s!"Skipping workspace file: {e.message}"⟩

/-- The workspaces in the named files, and the warnings met on the way. -/
def readAll (d : WorkspaceFiles) (t : FileTree) :
    List String → Except StoreError (List Workspace) × List LogLine
  | [] => (.ok [], [])
  | name :: names =>
    if Path.extension? name == some extension then
      match read (d.directory.child name) t with
      | .ok w =>
        let (result, logs) := readAll d t names
        (result.map (w :: ·), logs)
      | .error (.malformed p) =>
        let (result, logs) := readAll d t names
        (result, skipped (.malformed p) :: logs)
      | .error e => (.error e, [])
    else readAll d t names

/-- Workspaces in the order of their local ids; those of one local id stay in
order. -/
def sortByLocalId (ws : List Workspace) : List Workspace :=
  ws.mergeSort fun a b => (compare a.localId b.localId).isLE

/-- All stored workspaces in the order of their local ids, and the warnings about
files that were passed over. -/
def list (d : WorkspaceFiles) (t : FileTree) :
    Except StoreError (List Workspace) × List LogLine :=
  match t.names d.directory with
  | .error fault => (.error (.ofFault d.directory fault), [])
  | .ok names =>
    let (result, logs) := d.readAll t names
    (result.map sortByLocalId, logs)

/-- The stored workspaces that a scope shows, as a directory answers a supervisor. -/
def listScope (d : WorkspaceFiles) (scope : Scope) (t : FileTree) :
    Except DirectoryUnavailable (List Workspace) × List LogLine :=
  let (result, logs) := d.list t
  match result with
  | .error e => (.error ⟨e.message⟩, logs)
  | .ok ws => (.ok (ws.filter scope.includes), logs)

end WorkspaceFiles

end TunnelFleet
