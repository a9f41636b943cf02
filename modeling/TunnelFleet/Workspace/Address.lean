import TunnelFleet.Text.Decimal

/-!
# Network addresses

The address of a workspace is a host, optionally followed by a colon and a port.
A literal address of the sixth version of the protocol holds colons of its own,
so it carries a port only behind a closing bracket.
-/

namespace TunnelFleet.Address

/-- The text before and after the first `]:`, if there is one. -/
def splitBracket : List Char → Option (List Char × List Char)
  | [] => none
  | ']' :: ':' :: rest => some ([], rest)
  | c :: rest => (splitBracket rest).map fun (host, port) => (c :: host, port)

/-- The text before and after the last colon, if there is one. -/
def splitLastColon : List Char → Option (List Char × List Char)
  | [] => none
  | c :: rest =>
    match splitLastColon rest with
    | some (host, port) => some (c :: host, port)
    | none => if c == ':' then some ([], rest) else none

/-- Whether an address names a port. A bracketed host does so after its bracket;
any other host after its only colon. -/
def hasPort : List Char → Bool
  | '[' :: rest =>
    match splitBracket rest with
    | some (_, port) => Text.isPort port
    | none => false
  | address =>
    match splitLastColon address with
    | some (host, port) => !host.contains ':' && Text.isPort port
    | none => false

/-- The address with a port: unchanged if it names one, else `port` is appended,
with brackets around a host that holds a colon. -/
def withPort (address : String) (port : UInt16) : String :=
  if hasPort address.toList then address
  else if address.toList.contains ':' then s!"[{address}]:{port.toNat}"
  else s!"{address}:{port.toNat}"

end TunnelFleet.Address
