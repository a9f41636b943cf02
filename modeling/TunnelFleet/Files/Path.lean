import TunnelFleet.Text.Quoted

/-!
# Paths

A path is kept as the pieces between its slashes, empty ones included, so its text
can be had back exactly as it was written. An absolute path begins with an empty
piece.
-/

namespace TunnelFleet

/-- The pieces of a path, in order. -/
structure Path where
  pieces : List String
  deriving DecidableEq, Inhabited

namespace Path

/-- The characters between slashes: one piece more than there are slashes. -/
def splitSlashes : List Char → List (List Char)
  | [] => [[]]
  | c :: cs =>
    if c == '/' then [] :: splitSlashes cs
    else
      match splitSlashes cs with
      | [] => [[c]]
      | piece :: rest => (c :: piece) :: rest

/-- The path with this text. -/
def ofText (text : String) : Path := ⟨(splitSlashes text.toList).map String.ofList⟩

/-- The text of a path. -/
def text (p : Path) : String := "/".intercalate p.pieces

/-- The path as it stands in messages. -/
def quoted (p : Path) : String := Text.quoted p.text

instance : ToString Path := ⟨text⟩

/-- The pieces of a path that the pieces of another one are put behind. A slash that is there
already is not doubled. -/
def opened (p : Path) : List String :=
  if p.pieces.getLast? == some "" then p.pieces.dropLast else p.pieces

/-- The path of the entry `name` in the directory `p`. -/
def child (p : Path) (name : String) : Path := ⟨p.opened ++ [name]⟩

/-- Whether a path starts at the root of the tree. -/
def isAbsolute (p : Path) : Bool := p.pieces.head? == some "" && 2 ≤ p.pieces.length

/-- `q`, taken from the directory `p` unless it starts at the root. -/
def join (p q : Path) : Path := if q.isAbsolute then q else ⟨p.opened ++ q.pieces⟩

/-- Whether a path ends in a slash. -/
def endsInSlash (p : Path) : Bool := p.pieces.getLast? == some "" && 2 ≤ p.pieces.length

/-- A path without the slashes at its end. -/
def dropSlash (p : Path) : Path :=
  ⟨p.pieces.take 1 ++ ((p.pieces.drop 1).reverse.dropWhile (· == "")).reverse⟩

/-- Whether a piece leaves the walker where it is. -/
def isIdle (piece : String) : Bool := piece == "" || piece == "."

/-- The pieces without the idle ones at the end, the first piece apart. -/
def dropIdle (pieces : List String) : List String :=
  pieces.take 1 ++ ((pieces.drop 1).reverse.dropWhile isIdle).reverse

/-- The path of the directory that holds the entry; a path of one piece has none. -/
def parent? (p : Path) : Option Path :=
  match dropIdle p.pieces with
  | [] => none
  | [_] => none
  | pieces =>
    match dropIdle pieces.dropLast with
    | [""] => some ⟨["", ""]⟩
    | rest => some ⟨rest⟩

/-- The extension of a file name: what follows its last dot, unless that dot comes
first. -/
def extension? (name : String) : Option String :=
  let (after, before) := name.toList.reverse.span (· != '.')
  match before with
  | '.' :: _ :: _ => some (String.ofList after.reverse)
  | _ => none

@[simp] theorem pieces_child (p : Path) (name : String) :
    (p.child name).pieces = p.opened ++ [name] := rfl

end Path

end TunnelFleet
