/-
# Decimal digits of binary numbers

A positive binary64 number has a shortest decimal that reads back as itself, and
a rounding to any count of significant digits. Both are found on decimal grids:
for a count of digits there is one power of ten whose multiples have that many
digits near the number, and only the two multiples next to the number can be the
answer.
-/

import Stencil.Number.Binary64

namespace Stencil

/-- A positive decimal `digits * 10 ^ exponent`. -/
structure Decimal where
  digits : Nat
  exponent : Int
  deriving DecidableEq, Repr

namespace Decimal

/-- The decimal digits, the most significant first. -/
def digitChars (d : Decimal) : List Char := Nat.toDigits 10 d.digits

/-- The exponent of the leading digit. -/
def leadingExponent (d : Decimal) : Int := d.exponent + d.digitChars.length - 1

/-- The same decimal without zeros at the end of its digits, removing at most
`fuel` of them. -/
def stripZeros : Nat → Decimal → Decimal
  | 0, d => d
  | fuel + 1, d =>
    if d.digits ≠ 0 ∧ d.digits % 10 = 0 then
      stripZeros fuel ⟨d.digits / 10, d.exponent + 1⟩
    else d

/-- How many decimal digits a natural number has, none for zero. -/
def digitCount (n : Nat) : Nat := if n = 0 then 0 else (Nat.toDigits 10 n).length

/-- The exponent of the leading decimal digit of `num / den`. -/
def magnitude (num den : Nat) : Int :=
  if den ≤ num then digitCount (num / den) - 1
  else -(digitCount ((den + num - 1) / num - 1) : Int)

/-- The quotient `num / den` counted in steps of `10 ^ exponent`, as a ratio. -/
def scaled (num den : Nat) (exponent : Int) : Nat × Nat :=
  if 0 ≤ exponent then (num, den * Nat.pow 10 exponent.toNat)
  else (num * Nat.pow 10 (-exponent).toNat, den)

/-- The multiple of `10 ^ exponent` next to `num / den` that reads back as
`rank`; when both neighbours do, the nearer one, and of two equally near the even
one. -/
def onGrid? (rank num den : Nat) (exponent : Int) : Option Decimal :=
  let (n, d) := scaled num den exponent
  let lower := n / d
  let reads (digits : Nat) : Bool :=
    decide (Binary64.ofDecimal false digits exponent = Binary64.ofRank false rank)
  let nearest := Binary64.roundHalfEven n d
  if reads nearest then some ⟨nearest, exponent⟩
  else if reads lower then some ⟨lower, exponent⟩
  else if reads (lower + 1) then some ⟨lower + 1, exponent⟩
  else none

/-- The decimal with the fewest digits that reads back as the number of this
rank, nearest to it among those; it never ends in a zero. Seventeen digits always
suffice. The exact decimal stands at the end, so that reading back never fails. -/
def shortest (rank : Nat) : Decimal :=
  let num := Binary64.units rank
  let den := Binary64.unitsInOne
  let top := magnitude num den
  let found := (List.range 17).findSome? fun (n : Nat) =>
    (onGrid? rank num den (top - n)).map (stripZeros 20)
  found.getD ⟨num * Nat.pow 5 1074, -1074⟩

/-- The number of this rank rounded to `count` significant digits, a half going
to the even neighbour, without zeros at the end. -/
def significant (count rank : Nat) : Decimal :=
  let num := Binary64.units rank
  let den := Binary64.unitsInOne
  let exponent := magnitude num den - count + 1
  let (n, d) := scaled num den exponent
  stripZeros count ⟨Binary64.roundHalfEven n d, exponent⟩

end Decimal

end Stencil
