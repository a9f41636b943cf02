import TunnelFleet.Text.Blank
import Std.Data.ExtTreeMap

/-!
# Local ids

A workspace is known on this machine by a short name made of its own name and the
end of its id: `ws-0042` for the workspace `ws` with the id `prod-0042`. The name
part is cleaned to letters, digits and hyphens; the id part is kept as it is.
`NameAllowed` says which local ids may serve as a file name or as a key of the
port file.
-/

namespace TunnelFleet

/-- The name by which a workspace is known on this machine. -/
structure LocalId where
  text : String
  deriving DecidableEq, Inhabited

namespace LocalId

/-- Local ids are ordered as their texts are, character by character. -/
instance : Ord LocalId := ⟨fun a b => compare a.text b.text⟩

instance : Std.TransOrd LocalId where
  eq_swap {a b} := @Std.OrientedCmp.eq_swap String compare _ a.text b.text
  isLE_trans {a b c} := @Std.TransCmp.isLE_trans String compare _ a.text b.text c.text

instance : Std.LawfulEqOrd LocalId where
  compare_self {a} := @Std.ReflCmp.compare_self String compare _ a.text
  eq_of_compare {a b} h := by
    have htext : a.text = b.text := @Std.LawfulEqCmp.eq_of_compare String compare _ _ _ h
    obtain ⟨_⟩ := a
    obtain ⟨_⟩ := b
    exact congrArg LocalId.mk htext

instance : ToString LocalId := ⟨text⟩

/-- How many characters at the end of a workspace's id enter its local id. -/
def suffixLength : Nat := 4

/-- What becomes of one character of a name: white space turns into a hyphen,
letters, digits and hyphens stay, and everything else is dropped. -/
def cleanChar (c : Char) : Option Char :=
  if Text.isBlank c then some '-'
  else if c.isAlphanum || c == '-' then some c
  else none

/-- A text without the hyphens at its two ends. -/
def trimHyphens (cs : List Char) : List Char :=
  ((cs.dropWhile (· == '-')).reverse.dropWhile (· == '-')).reverse

/-- The part of a local id that comes from the workspace's name. -/
def cleanName (name : List Char) : List Char :=
  trimHyphens (name.filterMap cleanChar)

/-- The part of a local id that comes from the workspace's id: its last four
characters, or all of it if it is shorter. -/
def idSuffix (id : List Char) : List Char :=
  id.drop (id.length - suffixLength)

/-- The two parts joined by a hyphen, or the one that is not empty. -/
def join (name suffix : List Char) : List Char :=
  if name.isEmpty then suffix
  else if suffix.isEmpty then name
  else name ++ '-' :: suffix

/-- The local id of the workspace with this name and this id. -/
def ofNameAndId (name id : String) : LocalId :=
  ⟨String.ofList (join (cleanName name.toList) (idSuffix id.toList))⟩

/-- The characters of names that are fit for a file: ASCII letters and digits,
hyphens and underscores. -/
def isNameChar (c : Char) : Bool := c.isAlphanum || c == '-' || c == '_'

/-- A name fit for a file: not empty, and made of name characters only. -/
def NameAllowed (l : LocalId) : Prop := l.text ≠ "" ∧ ∀ c ∈ l.text.toList, isNameChar c = true

instance (l : LocalId) : Decidable l.NameAllowed :=
  decidable_of_iff (l.text ≠ "" ∧ l.text.toList.all isNameChar = true) (by simp [NameAllowed])

end LocalId

end TunnelFleet
