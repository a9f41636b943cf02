import TunnelFleet.Files.Tree
import TunnelFleet.Json.Basic
import TunnelFleet.Workspace.LocalId

/-!
# Errors of the stores

The stores keep the state of this machine in files. Every way in which one of their
operations fails is a `StoreError`. Two functions here read and write a text file
for them and say which path was at fault.
-/

namespace TunnelFleet

/-- Why an operation on a store failed. -/
inductive StoreError
  | homeMissing
  | access (path : Path) (reason : String)
  | malformed (path : Path)
  | invalidName (reason : String)
  | invalidPort (port : UInt16)
  | notFound (name : String)
  deriving DecidableEq

namespace StoreError

/-- What the user is told. -/
def message : StoreError → String
  | .homeMissing => "Failed to get home directory"
  | .access path reason => s!"Failed to access {path.quoted}: {reason}"
  | .malformed path => s!"Failed to parse {path.quoted}: {Json.complaint}"
  | .invalidName reason => s!"Invalid name: {reason}"
  | .invalidPort port => s!"Invalid port {port.toNat}"
  | .notFound name => s!"'{name}' not found"

/-- The message of the error's own cause, if it has one. -/
def cause? : StoreError → Option String
  | .access _ reason => some reason
  | .malformed _ => some Json.complaint
  | _ => none

/-- A fault met at a path. -/
def ofFault (path : Path) (fault : Fault) : StoreError := .access path fault.message

end StoreError

/-- Refuses a name that is not fit for a file. -/
def LocalId.check (l : LocalId) : Except StoreError Unit :=
  if l.text == "" then .error (.invalidName "name cannot be empty")
  else if l.text.toList.all LocalId.isNameChar then .ok ()
  else
    .error (.invalidName
      s!"'{l.text}' must contain only alphanumeric characters, hyphens, and underscores")

/-- A name passes the check exactly if it is allowed. -/
theorem LocalId.check_eq_ok_iff {l : LocalId} : l.check = .ok () ↔ l.NameAllowed := by
  unfold check NameAllowed
  by_cases h : l.text = ""
  · simp [h]
  · by_cases hall : l.text.toList.all isNameChar
    · simp only [beq_iff_eq, h, if_false, hall, if_true, ne_eq, not_false_eq_true, true_and, true_iff]
      exact List.all_eq_true.mp hall
    · simp only [beq_iff_eq, h, if_false, hall, ne_eq, not_false_eq_true, true_and, reduceCtorEq,
        false_iff]
      exact fun hc => hall (List.all_eq_true.mpr hc)

/-- A name that is not allowed is refused as invalid. -/
theorem LocalId.check_of_not_allowed {l : LocalId} (h : ¬l.NameAllowed) :
    ∃ reason, l.check = .error (.invalidName reason) := by
  have hrefused : l.check ≠ .ok () := fun hok => h (check_eq_ok_iff.mp hok)
  revert hrefused
  unfold check
  split
  · exact fun _ => ⟨_, rfl⟩
  · split
    · exact fun hrefused => absurd rfl hrefused
    · exact fun _ => ⟨_, rfl⟩

namespace FileTree

/-- The text of a stored file. -/
def loadText (t : FileTree) (p : Path) : Except StoreError String :=
  (t.readText p).mapError (.ofFault p)

/-- Makes the directory that a file belongs in. -/
def makeParent (t : FileTree) (p : Path) : Except StoreError Unit × FileTree :=
  match p.parent? with
  | none => (.ok (), t)
  | some directory =>
    let (result, t) := t.createDirectory directory
    (result.mapError (.ofFault directory), t)

/-- Writes a stored file, and makes the directory that it belongs in first. -/
def saveText (t : FileTree) (p : Path) (text : String) : Except StoreError Unit × FileTree :=
  match t.makeParent p with
  | (.error e, t) => (.error e, t)
  | (.ok (), t) =>
    match t.writeText p text with
    | .error fault => (.error (.ofFault p fault), t)
    | .ok t => (.ok (), t)

end FileTree

end TunnelFleet
