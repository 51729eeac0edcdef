/-
# How numbers are written

A layout fixes what a decimal looks like on paper: which exponents are written
out positionally, whether a whole number keeps its point, how wide an exponent is
and what the numbers without digits are called. The four layouts of this library
differ in these choices only; the digits come from elsewhere.
-/

import Stencil.Number.Digits

namespace Stencil

/-- The choices made when a number is written. An exponent from `lowest` up to,
but not including, `beyond` is written positionally. -/
structure Layout where
  lowest : Int
  beyond : Int
  keepsPoint : Bool
  exponentWidth : Nat
  nan : String
  infinity : String
  negativeInfinity : String

namespace Layout

/-- Digits padded with zeros in front to a least width. -/
def padded (width : Nat) (digits : List Char) : List Char :=
  List.replicate (width - digits.length) '0' ++ digits

/-- A decimal exponent with its sign. -/
def exponentText (layout : Layout) (e : Int) : List Char :=
  'e' :: (if e < 0 then '-' else '+') :: padded layout.exponentWidth (Nat.toDigits 10 e.natAbs)

/-- The digits of a decimal laid out around its point. -/
def digitsText (layout : Layout) (digits : List Char) (leading : Int) : List Char :=
  if layout.lowest ≤ leading ∧ leading < layout.beyond then
    if leading < 0 then
      '0' :: '.' :: (List.replicate (-leading - 1).toNat '0' ++ digits)
    else
      let wholeLength := leading.toNat + 1
      if digits.length ≤ wholeLength then
        digits ++ List.replicate (wholeLength - digits.length) '0' ++
          (if layout.keepsPoint then ['.', '0'] else [])
      else digits.take wholeLength ++ '.' :: digits.drop wholeLength
  else
    match digits with
    | [] => layout.exponentText leading
    | [first] => first :: layout.exponentText leading
    | first :: rest => first :: '.' :: (rest ++ layout.exponentText leading)

/-- The text of a number whose digits are chosen by `decimal`. -/
def write (layout : Layout) (decimal : Nat → Decimal) : Binary64 → List Char
  | .nan => layout.nan.toList
  | .infinite negative =>
    (if negative then layout.negativeInfinity else layout.infinity).toList
  | .finite negative rank =>
    let sign := if negative then ['-'] else []
    if rank.val = 0 then sign ++ layout.digitsText ['0'] 0
    else
      let d := decimal rank.val
      sign ++ layout.digitsText d.digitChars d.leadingExponent

/-- Values shown as text: positional from `0.0001` up to `10 ^ 16`, a whole number
keeps one zero after its point. -/
def plain : Layout := ⟨-4, 16, true, 2, "nan", "inf", "-inf"⟩

/-- Limits in messages: six digits, positional from `0.0001` up to `10 ^ 6`, and
no point in a whole number. -/
def brief : Layout := ⟨-4, 6, false, 2, "nan", "inf", "-inf"⟩

/-- Numbers in a stored template: positional from `0.00001` up to `10 ^ 16`;
numbers that are not finite are stored as `null`. -/
def stored : Layout := ⟨-5, 16, true, 1, "null", "null", "null"⟩

/-- Numbers in a printed document, which names the numbers that are not finite. -/
def printed : Layout := ⟨-4, 16, true, 2, "NaN", "Infinity", "-Infinity"⟩

/-- The shortest text of a number that reads back as itself. -/
def shortestText (layout : Layout) (x : Binary64) : List Char :=
  layout.write Decimal.shortest x

/-- The text of a number rounded to six significant digits. -/
def limitText (x : Binary64) : List Char :=
  brief.write (Decimal.significant 6) x

end Layout

end Stencil
