import TunnelFleet.Workspace.LocalId

/-!
# Stores of pinned ports

A port assigner asks a store which port a workspace is pinned to, and offers it the
ports that it has drawn. The store may be anything: a file, a table in memory,
something that fails. `PinTable` is a table whose faults are given in advance.
-/

namespace TunnelFleet

/-- A store could not answer. -/
structure StoreUnavailable where
  reason : String
  deriving DecidableEq, Inhabited

/-- What the user is told. -/
def StoreUnavailable.message (e : StoreUnavailable) : String :=
  s!"Port store unavailable: {e.reason}"

/-- A way to look up and to save ports in a state of type `σ`. -/
structure PortStore (σ : Type) where
  /-- The port pinned for a workspace, if any. -/
  lookup : σ → LocalId → Except StoreUnavailable (Option UInt16)
  /-- Remembers a port drawn for a workspace. -/
  save : σ → LocalId → UInt16 → Except StoreUnavailable Unit × σ

/-- The pinned port of a workspace, as far as it can be looked up. -/
def PortStore.pin? {σ : Type} (ports : PortStore σ) (store : σ) (l : LocalId) : Option UInt16 :=
  match ports.lookup store l with
  | .ok pin => pin
  | .error _ => none

@[simp] theorem PortStore.pin?_eq_some {σ : Type} {ports : PortStore σ} {store : σ} {l : LocalId}
    {p : UInt16} : ports.pin? store l = some p ↔ ports.lookup store l = .ok (some p) := by
  unfold pin?
  cases ports.lookup store l with
  | error e => simp
  | ok pin => simp

/-- A table of pins in memory. -/
structure PinTable where
  pins : Std.ExtTreeMap LocalId UInt16 := ∅
  /-- The workspaces that cannot be looked up, and why. -/
  lookupFaults : Std.ExtTreeMap LocalId String := ∅
  /-- The workspaces whose ports cannot be saved, and why. -/
  saveFaults : Std.ExtTreeMap LocalId String := ∅
  /-- Whether saved ports are kept; if not, they are dropped without an error. -/
  keeps : Bool := true

namespace PinTable

/-- The port of a workspace in the table. -/
def lookup (t : PinTable) (l : LocalId) : Except StoreUnavailable (Option UInt16) :=
  match t.lookupFaults[l]? with
  | some reason => .error ⟨reason⟩
  | none => .ok t.pins[l]?

theorem lookup_eq_ok {t : PinTable} {l : LocalId} {pin : Option UInt16} :
    t.lookup l = .ok pin ↔ t.lookupFaults[l]? = none ∧ t.pins[l]? = pin := by
  unfold lookup
  cases t.lookupFaults[l]? <;> simp

/-- Puts a port into the table. -/
def save (t : PinTable) (l : LocalId) (port : UInt16) : Except StoreUnavailable Unit × PinTable :=
  if !t.keeps then (.ok (), t)
  else
    match t.saveFaults[l]? with
    | some reason => (.error ⟨reason⟩, t)
    | none => (.ok (), { t with pins := t.pins.insert l port })

/-- A table that keeps what is saved, and has no fault for a workspace, holds its saved port. -/
theorem pins_save {t : PinTable} {l : LocalId} (hkeeps : t.keeps = true)
    (hfault : t.saveFaults[l]? = none) (p : UInt16) (k : LocalId) :
    (t.save l p).2.pins[k]? = if k = l then some p else t.pins[k]? := by
  by_cases hk : k = l
  · simp [save, hkeeps, hfault, hk]
  · simp [save, hkeeps, hfault, hk, Std.ExtTreeMap.getElem?_insert, Ne.symm hk]

/-- Pins a workspace to a port, whatever faults there are. -/
def pin (t : PinTable) (l : LocalId) (port : UInt16) : PinTable :=
  { t with pins := t.pins.insert l port }

/-- Removes the pin of a workspace, and tells whether there was one. -/
def unpin (t : PinTable) (l : LocalId) : Bool × PinTable :=
  (t.pins.contains l, { t with pins := t.pins.erase l })

/-- Sets why a workspace cannot be looked up, or that it can. -/
def setLookupFault (t : PinTable) (l : LocalId) (reason : Option String) : PinTable :=
  { t with lookupFaults := match reason with
    | some reason => t.lookupFaults.insert l reason
    | none => t.lookupFaults.erase l }

/-- The table as a store for an assigner. -/
def asStore : PortStore PinTable := ⟨lookup, save⟩

end PinTable

end TunnelFleet
