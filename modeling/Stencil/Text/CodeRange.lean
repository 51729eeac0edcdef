/-
# Ranges of characters

Character classes are tables of closed ranges of code points in ascending order,
and case maps are tables of evenly spaced runs of code points that move by one
distance.
-/


namespace Stencil.Text

/-- Closed ranges of code points. -/
abbrev Ranges := List (Nat × Nat)

/-- Whether a code point lies in one of the ranges. -/
def Ranges.has (ranges : Ranges) (code : Nat) : Bool :=
  ranges.any fun (first, last) => first ≤ code && code ≤ last

/-- The code points `first`, `first + step`, … up to `last`, each of which maps to
the code point `shift` further on. -/
structure CaseRun where
  first : Nat
  last : Nat
  step : Nat
  shift : Int

/-- What a run that holds a code point maps it to. The runs are in ascending order. -/
def CaseRun.find? : List CaseRun → Nat → Option Nat
  | [], _ => none
  | run :: rest, code =>
    if code < run.first then none
    else if code ≤ run.last ∧ (code - run.first) % run.step = 0 then
      some ((code : Int) + run.shift).toNat
    else find? rest code

end Stencil.Text
