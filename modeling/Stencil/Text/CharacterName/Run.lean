/-
# Runs of names

Neighbouring characters often have names that start alike. A run keeps their common
start once, and the endings of their names in order. A code point without a name has
the empty ending.
-/

import Stencil.Text.Parts

namespace Stencil.Text.CharacterName

/-- The names of a run of code points: the first code point, what all names start with, and
the endings, several in a text with semicolons between them. -/
structure Run where
  first : Nat
  stem : String
  endings : List String
  deriving Repr

namespace Run

/-- The code point of a name in a run. -/
def find? (run : Run) (name : List Char) : Option Nat :=
  (behind? run.stem.toList name).bind fun ending =>
    if ending.isEmpty then none
    else
      ((run.endings.flatMap fun text => parts ';' text.toList).idxOf? ending).map
        (run.first + ·)

end Run

end Stencil.Text.CharacterName
