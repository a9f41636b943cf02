/-!
# Durations

A duration is a number of nanoseconds. In messages it is written in the largest
unit of which it holds at least one, with as many decimal places as it needs:
`200ms`, `1.5s`, `0ns`.
-/

namespace TunnelFleet

/-- A span of time. -/
structure Duration where
  nanoseconds : Nat
  deriving DecidableEq, Inhabited

namespace Duration

/-- The nanoseconds in a microsecond. -/
def microsecond : Nat := 1000

/-- The nanoseconds in a millisecond. -/
def millisecond : Nat := 1000000

/-- The nanoseconds in a second. -/
def second : Nat := 1000000000

/-- A whole number of milliseconds. -/
def ofMilliseconds (n : Nat) : Duration := ⟨n * millisecond⟩

/-- A whole number of seconds. -/
def ofSeconds (n : Nat) : Duration := ⟨n * second⟩

/-- `value` in `places` decimal digits, with leading zeros and without trailing
ones. -/
def fraction (places value : Nat) : List Char :=
  let digits := Nat.toDigits 10 value
  let padded := List.replicate (places - digits.length) '0' ++ digits
  (padded.reverse.dropWhile (· == '0')).reverse

/-- A number of nanoseconds in units of `size` nanoseconds, where a unit has `places`
decimal places. -/
def inUnit (size places : Nat) (unit : String) (n : Nat) : String :=
  let whole := toString (n / size)
  let rest := n % size
  if rest == 0 then whole ++ unit
  else whole ++ "." ++ String.ofList (fraction places rest) ++ unit

/-- The duration in the largest unit that fits. -/
def text (d : Duration) : String :=
  let n := d.nanoseconds
  if second ≤ n then inUnit second 9 "s" n
  else if millisecond ≤ n then inUnit millisecond 6 "ms" n
  else if microsecond ≤ n then inUnit microsecond 3 "µs" n
  else inUnit 1 0 "ns" n

end Duration

end TunnelFleet
