import TunnelFleet.Json.Basic

/-!
# Writing JSON

A value is written on one line without any gap, or over several lines with two more
spaces of indentation for each level. Empty containers stay on one line.
-/

namespace TunnelFleet.Json

/-- A line break and the indentation of a level. -/
def newLine (level : Nat) : List Char := '\n' :: List.replicate (2 * level) ' '

mutual

/-- A value on one line. -/
def writeCompact : Json → List Char
  | .null => Token.null.write
  | .bool b => (Token.bool b).write
  | .number spelling => spelling.toList
  | .string content => Token.writeContent content
  | .array [] => ['[', ']']
  | .array (item :: items) => '[' :: writeCompact item ++ writeCompactItems items
  | .object [] => ['\x7b', '\x7d']
  | .object ((key, value) :: members) =>
    '\x7b' :: Token.writeContent key ++ ':' :: writeCompact value ++ writeCompactMembers members

/-- The remaining items of an array and its end. -/
def writeCompactItems : List Json → List Char
  | [] => [']']
  | item :: items => ',' :: writeCompact item ++ writeCompactItems items

/-- The remaining members of an object and its end. -/
def writeCompactMembers : List (Content × Json) → List Char
  | [] => ['\x7d']
  | (key, value) :: members =>
    ',' :: Token.writeContent key ++ ':' :: writeCompact value ++ writeCompactMembers members

end

mutual

/-- A value over several lines; `level` is the level of the line it begins on. -/
def writePretty (level : Nat) : Json → List Char
  | .null => Token.null.write
  | .bool b => (Token.bool b).write
  | .number spelling => spelling.toList
  | .string content => Token.writeContent content
  | .array [] => ['[', ']']
  | .array (item :: items) =>
    '[' :: newLine (level + 1) ++ writePretty (level + 1) item ++ writePrettyItems level items
  | .object [] => ['\x7b', '\x7d']
  | .object ((key, value) :: members) =>
    '\x7b' :: newLine (level + 1) ++ Token.writeContent key ++ ':' :: ' ' ::
      writePretty (level + 1) value ++ writePrettyMembers level members

/-- The remaining items of an array and its end. -/
def writePrettyItems (level : Nat) : List Json → List Char
  | [] => newLine level ++ [']']
  | item :: items =>
    ',' :: newLine (level + 1) ++ writePretty (level + 1) item ++ writePrettyItems level items

/-- The remaining members of an object and its end. -/
def writePrettyMembers (level : Nat) : List (Content × Json) → List Char
  | [] => newLine level ++ ['\x7d']
  | (key, value) :: members =>
    ',' :: newLine (level + 1) ++ Token.writeContent key ++ ':' :: ' ' ::
      writePretty (level + 1) value ++ writePrettyMembers level members

end

/-- The text of a value on one line. -/
def compact (value : Json) : String := String.ofList (writeCompact value)

/-- The text of a value over several lines. -/
def pretty (value : Json) : String := String.ofList (writePretty 0 value)

end TunnelFleet.Json
