import TunnelFleet.Text.Hidden

/-!
# Quoted text

A path in a message stands between double quotes. Quotes and backslashes inside it
are escaped, and so is every character that does not show, so the reader can tell
any two paths apart.
-/

namespace TunnelFleet.Text

/-- The digits of a code point in base sixteen, with lower case letters. -/
def hexDigits (n : Nat) : List Char := Nat.toDigits 16 n

/-- One character inside quotes. The common controls have a letter of their own;
any other hidden character is written as its code point. -/
def quoteChar (c : Char) : List Char :=
  if c == '"' then ['\\', '"']
  else if c == '\\' then ['\\', '\\']
  else if c == '\n' then ['\\', 'n']
  else if c == '\t' then ['\\', 't']
  else if c == '\r' then ['\\', 'r']
  else if c == Char.ofNat 0 then ['\\', '0']
  else if isHidden c then ['\\', 'u', '\x7b'] ++ hexDigits c.toNat ++ ['\x7d']
  else [c]

/-- The text between double quotes, escaped. -/
def quoted (text : String) : String :=
  String.ofList ('"' :: text.toList.flatMap quoteChar ++ ['"'])

end TunnelFleet.Text
