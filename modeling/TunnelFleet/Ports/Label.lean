import TunnelFleet.Log
import TunnelFleet.Ports.Assigner
import TunnelFleet.Text.Decimal

/-!
# Labels for ports

Ports are drawn at random, so two runs of the same work differ in nothing but the
ports that were drawn. A report that is to be compared with another shows a port by
its number only if the number was known beforehand, and shows any other port by the
place at which it first appears among the drawn ones.
-/

namespace TunnelFleet

/-- What stands for a port in a report. -/
inductive PortLabel
  | number (n : Nat)
  /-- The drawn port that was the `place`-th to appear, counted from one. -/
  | drawn (place : Nat)
  /-- A port that cannot have been drawn. -/
  | outside
  deriving DecidableEq

/-- A label as it is shown. -/
def PortLabel.text : PortLabel → String
  | .number n => toString n
  | .drawn place => s!"auto#{place}"
  | .outside => "out of range"

/-- What is known about the ports of a report, and the drawn ports that have appeared in
it so far. -/
structure PortLabels where
  /-- The ports whose numbers are known beforehand. -/
  known : List Nat
  /-- The ranges that ports are drawn from. -/
  ranges : List PortRange
  drawn : List UInt16 := []

namespace PortLabels

/-- The label of a port; a drawn port that has not appeared before takes the next place. -/
def label (p : UInt16) (ls : PortLabels) : PortLabel × PortLabels :=
  if ls.known.contains p.toNat then (.number p.toNat, ls)
  else if !ls.ranges.any (·.contains p) then (.outside, ls)
  else
    match ls.drawn.idxOf? p with
    | some i => (.drawn (i + 1), ls)
    | none => (.drawn (ls.drawn.length + 1), { ls with drawn := ls.drawn ++ [p] })

/-- What is shown of the digits that follow the word `port`. -/
def labelDigits (digits : List Char) (ls : PortLabels) : List Char × PortLabels :=
  match Text.readDigits 65535 digits with
  | some n =>
    let (shown, ls) := ls.label (UInt16.ofNat n)
    (shown.text.toList, ls)
  | none => (digits, ls)

/-- A text with labels for the ports that it names: the numbers after the word `port`. -/
def relabel (cs : List Char) (ls : PortLabels) : List Char × PortLabels :=
  match cs with
  | 'p' :: 'o' :: 'r' :: 't' :: ' ' :: rest =>
    let (shown, ls) := ls.labelDigits (rest.takeWhile Char.isDigit)
    let (more, ls) := relabel (rest.dropWhile Char.isDigit) ls
    (['p', 'o', 'r', 't', ' '] ++ shown ++ more, ls)
  | c :: rest =>
    let (more, ls) := relabel rest ls
    (c :: more, ls)
  | [] => ([], ls)
termination_by cs.length
decreasing_by
  · have := (List.dropWhile_sublist (l := rest) Char.isDigit).length_le
    simp only [List.length_cons]
    omega
  · simp

/-- The texts of log lines in the order of the texts. Places are given in the order of
the lines. -/
def logTexts (lines : List LogLine) (ls : PortLabels) : List String × PortLabels :=
  let (texts, ls) := lines.foldl
    (fun (texts, ls) line =>
      let (text, ls) := ls.relabel line.short.toList
      (texts ++ [String.ofList text], ls)) ([], ls)
  (texts.mergeSort fun a b => decide (a ≤ b), ls)

end PortLabels

end TunnelFleet
