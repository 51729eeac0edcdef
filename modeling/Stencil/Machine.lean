/-
# Machines

What a run comes to follows from its input, but for what is left to the machine it runs on: how
many calls may be open at once, how long a divider may be, what stands for half of a pair of code
units that stands alone, which characters the output takes, and two ways of the matcher of
patterns. All this is a parameter. What is said without naming a machine is said of the standard
one, which has room for all that nests.
-/

import Stencil.Value.Basic

namespace Stencil

/-- Where the text of a value is asked for. -/
inductive Occasion
  | lengthCheck
  | patternCheck
  | optionCheck
  | token
  | detailLine
  | signatureLine
  | cell
  deriving DecidableEq, Repr

/-- Work that opens calls inside of calls, as deep as what it is done on. -/
inductive Nesting
  | template (text : List Char)
  | data (text : List Char)
  | pattern (text : String)
  | showing (occasion : Occasion) (v : Value)

/-- What is left to the machine. -/
class Machine where
  /-- How many calls may be open at once, if there is a limit. -/
  callLimit : Option Nat
  /-- How many calls are open at once when some work is at its deepest. -/
  calls : Nesting → Nat
  /-- The length of the longest divider that fits into memory. -/
  longestDivider : Nat
  /-- What stands for half of a pair of code units that stands alone. -/
  standIn : Nat → Char
  /-- Whether the output takes a character. A machine that keeps halves apart from all other
  characters has an output that takes none of them. -/
  prints : Char → Bool
  /-- What is said of a text that is no pattern. -/
  patternFault : String → Option String
  /-- Whether a possessive repetition whose last run fails goes on where this run left the
  cursor. Early matchers do. All later ones go on behind the last run that did not fail. -/
  keepsCursor : Bool

namespace Machine

/-- The code of the first of the 2048 characters that stand for halves on the standard machine,
the last ones that there are. -/
def firstStandIn : Nat := 0x10F800

/-- The machine that is meant where none is named. It keeps halves apart. -/
instance standard : Machine where
  callLimit := none
  calls _ := 0
  longestDivider := 0x100000000
  standIn half := .ofNat (half - 0xD800 + firstStandIn)
  prints c := c.toNat < firstStandIn
  patternFault _ := none
  keepsCursor := true

/-- Whether some work gets by with the calls that may be open at once. -/
def allows [Machine] (work : Nesting) : Bool := callLimit.all fun limit => calls work ≤ limit

@[simp]
theorem allows_standard (work : Nesting) : allows work = true := rfl

end Machine

end Stencil
