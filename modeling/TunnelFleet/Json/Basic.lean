import TunnelFleet.Json.Token
import TunnelFleet.Text.Decimal

/-!
# JSON values

A JSON value is a tree. It is read from tokens by a machine that takes one token at
a time and keeps the containers that are still open on a stack, so a value may be
nested to any depth.
-/

namespace TunnelFleet

/-- A JSON value. An object keeps its members in order, repeated keys included. -/
inductive Json
  | null
  | bool (b : Bool)
  | number (spelling : String)
  | string (content : Json.Content)
  | array (items : List Json)
  | object (members : List (Json.Content × Json))
  deriving Inhabited

namespace Json

/-- The string value of a text. -/
def ofText (text : String) : Json := .string (some text)

/-- The number value of a natural number. -/
def ofNat (n : Nat) : Json := .number (toString n)

/-- An object with these members. -/
def record (members : List (String × Json)) : Json :=
  .object (members.map fun (key, value) => (some key, value))

/-! ## Reading -/

/-- A container that is not closed yet, with what it holds so far, the last part
first. An object waits for the value of a key. -/
inductive Frame
  | array (items : List Json)
  | object (members : List (Content × Json)) (key : Content)

/-- What a reader expects next, and the containers around it, the innermost one
first. -/
inductive Reading
  /-- A value. -/
  | value (around : List Frame)
  /-- The first item of an array, or its end. -/
  | firstItem (around : List Frame)
  /-- The first key of an object, or its end. -/
  | firstKey (around : List Frame)
  /-- A key, after a comma. -/
  | nextKey (members : List (Content × Json)) (around : List Frame)
  /-- The colon after a key. -/
  | colon (members : List (Content × Json)) (key : Content) (around : List Frame)
  /-- A comma or the end of an array. -/
  | afterItem (items : List Json) (around : List Frame)
  /-- A comma or the end of an object. -/
  | afterMember (members : List (Content × Json)) (around : List Frame)
  /-- Nothing: the value is complete. -/
  | done (value : Json)

/-- A value is complete: it goes into the innermost container. -/
def Reading.complete (value : Json) : List Frame → Reading
  | [] => .done value
  | .array items :: around => .afterItem (value :: items) around
  | .object members key :: around => .afterMember ((key, value) :: members) around

/-- A token where a value is expected. -/
def Reading.startValue (around : List Frame) : Token → Option Reading
  | .null => some (.complete .null around)
  | .bool b => some (.complete (.bool b) around)
  | .number spelling => some (.complete (.number spelling) around)
  | .string content => some (.complete (.string content) around)
  | .openBracket => some (.firstItem around)
  | .openBrace => some (.firstKey around)
  | _ => none

/-- Takes one token, if it is expected. -/
def Reading.step : Reading → Token → Option Reading
  | .value around, token => startValue around token
  | .firstItem around, .closeBracket => some (.complete (.array []) around)
  | .firstItem around, token => startValue (.array [] :: around) token
  | .firstKey around, .closeBrace => some (.complete (.object []) around)
  | .firstKey around, .string key => some (.colon [] key around)
  | .nextKey members around, .string key => some (.colon members key around)
  | .colon members key around, .colon => some (.value (.object members key :: around))
  | .afterItem items around, .comma => some (.value (.array items :: around))
  | .afterItem items around, .closeBracket => some (.complete (.array items.reverse) around)
  | .afterMember members around, .comma => some (.nextKey members around)
  | .afterMember members around, .closeBrace => some (.complete (.object members.reverse) around)
  | _, _ => none

/-- The value that the tokens spell, if they spell exactly one. -/
def ofTokens? (tokens : List Token) : Option Json :=
  match tokens.foldlM Reading.step (.value []) with
  | some (.done value) => some value
  | _ => none

/-- The value that a text spells. -/
def parse? (text : String) : Option Json := (Token.ofText? text).bind ofTokens?

/-- What a message says in place of the reason why a text is no JSON of the kind
that is wanted. -/
def complaint : String := "<json>"

/-! ## Taking values apart -/

/-- The text of a string value. -/
def text? : Json → Option String
  | .string content => content
  | _ => none

/-- The natural number of a number value, if it is spelled with digits only and is
at most `limit`. -/
def nat? (limit : Nat) : Json → Option Nat
  | .number spelling => Text.readDigits limit spelling.toList
  | _ => none

/-- The members of an object whose keys are all texts. -/
def members? : Json → Option (List (String × Json))
  | .object members => members.mapM fun (key, value) => key.map (·, value)
  | _ => none

/-- The values of the fields of a record, one for each name in order. A record is
an object in which each name occurs at most once and other keys do not count, or an
array of the values of the first few fields. -/
def fields? (names : List String) : Json → Option (List (Option Json))
  | .array items =>
    if items.length ≤ names.length then
      some (items.map some ++ List.replicate (names.length - items.length) none)
    else none
  | value => do
    let members ← value.members?
    if names.all fun name => (members.filter (·.1 == name)).length ≤ 1 then
      some (names.map fun name => (members.find? (·.1 == name)).map (·.2))
    else none

end Json

end TunnelFleet
