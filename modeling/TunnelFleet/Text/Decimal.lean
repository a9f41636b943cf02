/-!
# Decimal numbers in text

Numbers are written with the fewest decimal digits and read back with any number
of leading zeros. A reader names the greatest value that it accepts, so one
definition serves ports, retry counts and seconds.
-/

namespace TunnelFleet.Text

/-- The value of a list of decimal digits, most significant first. -/
def digitsValue (cs : List Char) : Nat :=
  cs.foldl (fun n c => 10 * n + (c.toNat - '0'.toNat)) 0

/-- One or more decimal digits whose value is at most `limit`. -/
def readDigits (limit : Nat) (cs : List Char) : Option Nat :=
  if cs.isEmpty || !cs.all Char.isDigit then none
  else
    let n := digitsValue cs
    if n ≤ limit then some n else none

/-- Digits after an optional plus sign, with a value of at most `limit`. -/
def readUnsigned (limit : Nat) : List Char → Option Nat
  | '+' :: cs => readDigits limit cs
  | cs => readDigits limit cs

/-- Digits after an optional sign, with a value from zero to `limit`: a minus
sign is accepted in front of zero alone. -/
def readSigned (limit : Nat) : List Char → Option Nat
  | '-' :: cs => readDigits 0 cs
  | cs => readUnsigned limit cs

/-- Whether the text is a number that a port can have. -/
def isPort (cs : List Char) : Bool := (readUnsigned 65535 cs).isSome

/-- The values of the runs of digits in a text, with `run` before the text. -/
def numbersAfter (run : List Char) : List Char → List Nat
  | [] => if run.isEmpty then [] else [digitsValue run]
  | c :: cs =>
    if c.isDigit then numbersAfter (run ++ [c]) cs
    else if run.isEmpty then numbersAfter [] cs
    else digitsValue run :: numbersAfter [] cs

/-- The numbers that stand in a text, in order. -/
def numbersIn (text : String) : List Nat := numbersAfter [] text.toList

/-- The digits of a number are read back as the number. -/
theorem readDigits_toDigits {limit n : Nat} (h : n ≤ limit) :
    readDigits limit (Nat.toDigits 10 n) = some n := by
  have hvalue : digitsValue (Nat.toDigits 10 n) = n := by
    have hdigits : Nat.ofDigitChars 10 (Nat.toDigits 10 n) 0 = n := Nat.ofDigitChars_ten_toDigits
    rwa [Nat.ofDigitChars_eq_foldl] at hdigits
  have hall : (Nat.toDigits 10 n).all Char.isDigit = true :=
    List.all_eq_true.mpr fun c hc => Nat.isDigit_of_mem_toDigits (by decide) (by decide) hc
  simp [readDigits, hvalue, hall, Nat.toDigits_ne_nil, h]

end TunnelFleet.Text
