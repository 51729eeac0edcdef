/-
# Blank characters

Blank characters are those with the property `White_Space`. The separators from
`28` to `31` count as space in a pattern and in nothing else.
-/

import Stencil.Text.CodeRange

namespace Stencil.Text

/-- The characters with the property `White_Space`. -/
def blankRanges : Ranges :=
  [(9, 13), (32, 32), (133, 133), (160, 160), (5760, 5760), (8192, 8202), (8232, 8233),
   (8239, 8239), (8287, 8287), (12288, 12288)]

/-- Whether a character is blank. -/
def isBlank (c : Char) : Bool := blankRanges.has c.toNat

/-- Whether a character matches the space class of a pattern. -/
def isPatternSpace (code : Nat) : Bool :=
  (28 ≤ code && code ≤ 31) || blankRanges.has code

/-- The text without blank characters at its start and end. -/
def trimBlank (cs : List Char) : List Char :=
  ((cs.dropWhile isBlank).reverse.dropWhile isBlank).reverse


end Stencil.Text
