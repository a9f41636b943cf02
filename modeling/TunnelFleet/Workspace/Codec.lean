import TunnelFleet.Json.Printer
import TunnelFleet.Workspace.Basic

/-!
# Workspaces as JSON

A workspace is stored as a record of its id, name, address and status. The status
may be left out, and is unknown then; it is a word, or an object with that word as
its only key and `null` as its value.
-/

namespace TunnelFleet

/-- The JSON value of a status. -/
def Status.toJson (s : Status) : Json := .ofText s.name

/-- The status that a JSON value stands for. -/
def Status.ofJson? : Json → Option Status
  | .string (some word) => ofName? word
  | .object [(some word, .null)] => ofName? word
  | _ => none

namespace Workspace

/-- The names of the fields of a stored workspace. -/
def fieldNames : List String := ["id", "name", "address", "status"]

/-- The JSON value of a workspace. -/
def toJson (w : Workspace) : Json :=
  .record [("id", .ofText w.id), ("name", .ofText w.name), ("address", .ofText w.address),
    ("status", w.status.toJson)]

/-- The workspace that a JSON value stands for. -/
def ofJson? (value : Json) : Option Workspace := do
  match ← value.fields? fieldNames with
  | [some id, some name, some address, status] =>
    let status ← match status with
      | some status => Status.ofJson? status
      | none => some .unknown
    return { id := ← id.text?, name := ← name.text?, address := ← address.text?, status }
  | _ => none

/-- The workspace that a text spells. -/
def parse? (text : String) : Option Workspace := (Json.parse? text).bind ofJson?

end Workspace

end TunnelFleet
