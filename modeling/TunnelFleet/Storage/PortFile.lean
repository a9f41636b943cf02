import TunnelFleet.Json.Printer
import TunnelFleet.Ports.Store
import TunnelFleet.Storage.Error

/-!
# The port file

The local port of each workspace is pinned in one file, an object from local ids to
ports. An entry that the file holds counts even if it could not be set today; of a
repeated key the last value counts.
-/

namespace TunnelFleet

/-- The pinned ports, by local id. -/
abbrev Pins := Std.ExtTreeMap LocalId UInt16

namespace Pins

/-- The JSON value of the pins, in the order of the local ids. -/
def toJson (pins : Pins) : Json :=
  .record (pins.toList.map fun (l, port) => (l.text, .ofNat port.toNat))

/-- The pins that a JSON value stands for. -/
def ofJson? (value : Json) : Option Pins := do
  let members ← value.members?
  members.foldlM (fun pins (key, value) => do
    return pins.insert ⟨key⟩ (UInt16.ofNat (← value.nat? (UInt16.size - 1)))) ∅

/-- The text of the pins as they are stored. -/
def text (pins : Pins) : String := pins.toJson.pretty

/-- The pins that a text spells. -/
def parse? (text : String) : Option Pins := (Json.parse? text).bind ofJson?

end Pins

/-- The file that holds the pinned ports. -/
structure PortFile where
  path : Path

namespace PortFile

/-- All pins in the file; a missing file holds none. -/
def list (f : PortFile) (t : FileTree) : Except StoreError Pins :=
  if t.has f.path then
    match t.loadText f.path with
    | .error e => .error e
    | .ok text =>
      match Pins.parse? text with
      | some pins => .ok pins
      | none => .error (.malformed f.path)
  else .ok ∅

/-- The port pinned for a workspace. -/
def get (f : PortFile) (l : LocalId) (t : FileTree) : Except StoreError (Option UInt16) :=
  (f.list t).map (·[l]?)

/-- Writes the pins to the file. -/
def write (f : PortFile) (pins : Pins) (t : FileTree) : Except StoreError Unit × FileTree :=
  t.saveText f.path pins.text

/-- Pins a workspace to a port. The name has to be allowed and the port has to be
one that can be bound by number. -/
def set (f : PortFile) (l : LocalId) (port : UInt16) (t : FileTree) :
    Except StoreError Unit × FileTree :=
  match l.check with
  | .error e => (.error e, t)
  | .ok () =>
    if port == 0 then (.error (.invalidPort port), t)
    else
      match f.list t with
      | .error e => (.error e, t)
      | .ok pins => f.write (pins.insert l port) t

/-- Removes the pin of a workspace, and tells whether there was one. -/
def remove (f : PortFile) (l : LocalId) (t : FileTree) : Except StoreError Bool × FileTree :=
  match f.list t with
  | .error e => (.error e, t)
  | .ok pins =>
    if l ∈ pins then
      match f.write (pins.erase l) t with
      | (.error e, t) => (.error e, t)
      | (.ok (), t) => (.ok true, t)
    else (.ok false, t)

/-- The port file as a store of ports for an assigner: an error is told as its
message. -/
def asStore (f : PortFile) : PortStore FileTree where
  lookup t l := (f.get l t).mapError fun e => ⟨e.message⟩
  save t l port :=
    let (result, t) := f.set l port t
    (result.mapError fun e => ⟨e.message⟩, t)

end PortFile

end TunnelFleet
