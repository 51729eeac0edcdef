/-
# Numerals

A numeral is an optional sign followed by digits with an optional point and
exponent, or by one of the words for infinity and for an undefined number. Data
and template attributes accept numerals with blanks around them and low lines
between digits; they differ in where exactly these may stand.
-/

import Stencil.Number.Binary64
import Stencil.Text.Blank
import Stencil.Text.DecimalDigit

namespace Stencil.Numeral

/-- The value of a run of decimal digits. -/
def digitsValue (cs : List Char) : Nat := Nat.ofDigitChars 10 cs 0

/-- Splits an optional sign from a text and says whether it is a minus. -/
def splitSign : List Char → Bool × List Char
  | '-' :: rest => (true, rest)
  | '+' :: rest => (false, rest)
  | rest => (false, rest)

/-- Reads an exponent that fills the whole text; no exponent counts as zero. -/
def exponent? : List Char → Option Int
  | [] => some 0
  | mark :: rest =>
    let (negative, digits) := splitSign rest
    if (mark = 'e' ∨ mark = 'E') ∧ digits ≠ [] ∧ digits.all Char.isDigit then
      let magnitude : Int := digitsValue digits
      some (if negative then -magnitude else magnitude)
    else none

/-- Reads digits with an optional point and exponent that fill the whole text. At
least one digit stands before or after the point. -/
def decimal? (negative : Bool) (cs : List Char) : Option Binary64 :=
  let whole := cs.takeWhile Char.isDigit
  let afterWhole := cs.dropWhile Char.isDigit
  let (fraction, afterFraction) :=
    match afterWhole with
    | '.' :: rest => (rest.takeWhile Char.isDigit, rest.dropWhile Char.isDigit)
    | rest => ([], rest)
  if whole = [] ∧ fraction = [] then none
  else
    (exponent? afterFraction).map fun exponent =>
      Binary64.ofDecimal negative (digitsValue (whole ++ fraction)) (exponent - fraction.length)

/-- Reads a numeral that fills the whole text. -/
def read? (cs : List Char) : Option Binary64 :=
  let (negative, rest) := splitSign cs
  let word := rest.map Char.toLower
  if word = "inf".toList ∨ word = "infinity".toList then some (.infinite negative)
  else if word = "nan".toList then some .nan
  else decimal? negative rest

/-- A decimal digit of any script as one of the ten basic digits. -/
def basicDigit (c : Char) : Char :=
  match Text.decimalValue? c.toNat with
  | some value => Nat.digitChar value
  | none => c

/-- Removes low lines, each of which stands between two digits. The first argument
says whether a digit stands before the text. -/
def joinDigits? : Bool → List Char → Option (List Char)
  | _, [] => some []
  | afterDigit, '_' :: rest =>
    if afterDigit ∧ (rest.head?.any Char.isDigit) then joinDigits? false rest else none
  | _, c :: rest => (joinDigits? c.isDigit rest).map (c :: ·)

/-- Reads a number from a text found in data: blanks may surround the numeral, its
digits may be of any script, and a low line may stand between two digits. -/
def readData? (s : String) : Option Binary64 :=
  (joinDigits? false ((Text.trimBlank s.toList).map basicDigit)).bind read?

/-- Whether two low lines stand next to each other. -/
def hasDoubleLine : List Char → Bool
  | '_' :: '_' :: _ => true
  | _ :: rest => hasDoubleLine rest
  | [] => false

/-- Whether a low line stands first, last or next to another one. -/
def hasStrayLine (cs : List Char) : Bool :=
  cs.head? == some '_' || cs.getLast? == some '_' || hasDoubleLine cs

/-- Reads a number from a text given as an attribute: blanks may surround the
numeral; failing that, low lines anywhere inside it are dropped. -/
def readAttribute? (s : String) : Option Binary64 :=
  match read? (Text.trimBlank s.toList) with
  | some x => some x
  | none =>
    if s.toList.contains '_' ∧ hasStrayLine s.toList = false then
      read? (s.toList.filter (· ≠ '_'))
    else none

end Stencil.Numeral
