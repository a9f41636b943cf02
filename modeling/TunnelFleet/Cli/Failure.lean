import TunnelFleet.Storage.Error

/-!
# Failed commands

A command that fails tells what it was about, then the causes, the nearest one
first. A single cause is indented; several are numbered from zero.
-/

namespace TunnelFleet.Cli

/-- Why a command failed: the text that is told first, and the causes behind it. -/
structure Failure where
  text : String
  causes : List String := []

namespace Failure

/-- The failure of a store. -/
def ofStore (e : StoreError) : Failure := ⟨e.message, e.cause?.toList⟩

/-- The failure with a word on what was being done. -/
def during (f : Failure) (context : String) : Failure := ⟨context, f.text :: f.causes⟩

/-- A text with `mark` before it and its further lines indented as far. -/
def indented (mark : String) (text : String) : String :=
  let margin := "\n" ++ String.ofList (List.replicate mark.length ' ')
  mark ++ margin.intercalate (text.splitOn "\n")

/-- The mark before the `n`-th of several causes. -/
def numberMark (n : Nat) : String :=
  let digits := toString n
  String.ofList (List.replicate (5 - digits.length) ' ') ++ digits ++ ": "

/-- The list of causes. -/
def causeTexts (causes : List String) : List String :=
  match causes with
  | [cause] => [indented "    " cause]
  | _ => causes.zipIdx.map fun (cause, n) => indented (numberMark n) cause

/-- What is written to standard error. -/
def report (f : Failure) : String :=
  let causes :=
    if f.causes.isEmpty then ""
    else "\n\nCaused by:\n" ++ "\n".intercalate (causeTexts f.causes)
  s!"Error: {f.text}{causes}\n"

end Failure

end TunnelFleet.Cli
