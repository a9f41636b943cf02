import TunnelFleet.Json.Printer
import TunnelFleet.Storage.Error

/-!
# Settings

The settings of the program and the file that holds them. A field that the file
does not name has its default value, and so has every field if there is no file.

The path of the private key is taken to be a text. The system allows paths whose bytes are
no text; such a path cannot be stored, and setting it fails before the file is written.
-/

namespace TunnelFleet

/-- What the user can set once for all runs. -/
structure Settings where
  /-- The user that a health probe logs in as. -/
  sshUser : String := "ubuntu"
  /-- The path of the private key, as a text; without one the usual places are searched. -/
  privateKey : Option String := none
  /-- How often one workspace may be reconnected during a run. -/
  retryBudget : UInt32 := 3
  /-- How many seconds a health probe may take. -/
  probeTimeout : UInt64 := 5
  deriving DecidableEq, Inhabited

namespace Settings

/-- The names of the stored fields. -/
def fieldNames : List String := ["ssh_user", "private_key_path", "retry_budget", "probe_timeout_secs"]

/-- The JSON value of the settings. -/
def toJson (s : Settings) : Json :=
  .record [("ssh_user", .ofText s.sshUser),
    ("private_key_path", match s.privateKey with
      | some path => .ofText path
      | none => .null),
    ("retry_budget", .ofNat s.retryBudget.toNat),
    ("probe_timeout_secs", .ofNat s.probeTimeout.toNat)]

/-- The value of a field that may be left out. -/
def orDefault {α : Type} (default : α) (read : Json → Option α) : Option Json → Option α
  | none => some default
  | some value => read value

/-- A path, or `null` for none. -/
def readPath : Json → Option (Option String)
  | .null => some none
  | value => value.text?.map some

/-- The settings that a JSON value stands for. -/
def ofJson? (value : Json) : Option Settings := do
  match ← value.fields? fieldNames with
  | [user, key, budget, timeout] =>
    return {
      sshUser := ← orDefault "ubuntu" Json.text? user
      privateKey := ← orDefault none readPath key
      retryBudget := ← orDefault 3 (fun v => (v.nat? (UInt32.size - 1)).map UInt32.ofNat) budget
      probeTimeout := ← orDefault 5 (fun v => (v.nat? (UInt64.size - 1)).map UInt64.ofNat) timeout }
  | _ => none

/-- The text of the settings as they are stored. -/
def text (s : Settings) : String := s.toJson.pretty

/-- The settings that a text spells. -/
def parse? (text : String) : Option Settings := (Json.parse? text).bind ofJson?

end Settings

/-- The file that holds the settings. -/
structure SettingsFile where
  path : Path

namespace SettingsFile

/-- The settings in the file, or the default settings if there is none. -/
def load (f : SettingsFile) (t : FileTree) : Except StoreError Settings :=
  if t.has f.path then
    match t.loadText f.path with
    | .error e => .error e
    | .ok text =>
      match Settings.parse? text with
      | some settings => .ok settings
      | none => .error (.malformed f.path)
  else .ok {}

/-- Writes the settings to the file. -/
def save (f : SettingsFile) (s : Settings) (t : FileTree) : Except StoreError Unit × FileTree :=
  t.saveText f.path s.text

/-- Changes the settings in the file. -/
def modify (f : SettingsFile) (change : Settings → Settings) (t : FileTree) :
    Except StoreError Unit × FileTree :=
  match f.load t with
  | .error e => (.error e, t)
  | .ok settings => f.save (change settings) t

/-- Sets the user. -/
def setUser (f : SettingsFile) (user : String) : FileTree → Except StoreError Unit × FileTree :=
  f.modify ({ · with sshUser := user })

/-- Sets the private key, or clears it. -/
def setIdentity (f : SettingsFile) (key : Option String) :
    FileTree → Except StoreError Unit × FileTree :=
  f.modify ({ · with privateKey := key })

end SettingsFile

end TunnelFleet
