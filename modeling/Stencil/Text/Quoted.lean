/-
# Quoted texts

The quoted form of a text shows where it begins and ends and spells every
character that cannot be seen. It uses single quotes unless the text holds a
single quote and no double quote.
-/

import Stencil.Text.Printable

namespace Stencil.Text

/-- A number in hexadecimal, padded with zeros to a least width. -/
def hexPadded (width n : Nat) : List Char :=
  let digits := Nat.toDigits 16 n
  List.replicate (width - digits.length) '0' ++ digits

/-- The quotation mark for a text. -/
def quoteMark (cs : List Char) : Char :=
  if cs.contains '\'' ∧ ¬ cs.contains '"' then '"' else '\''

/-- How a character is spelled inside quotes. -/
def quotedChar (mark c : Char) : List Char :=
  if c = mark ∨ c = '\\' then ['\\', c]
  else if c = '\t' then ['\\', 't']
  else if c = '\n' then ['\\', 'n']
  else if c = '\r' then ['\\', 'r']
  else if isPrintable c.toNat then [c]
  else if c.toNat < 0x100 then '\\' :: 'x' :: hexPadded 2 c.toNat
  else if c.toNat < 0x10000 then '\\' :: 'u' :: hexPadded 4 c.toNat
  else '\\' :: 'U' :: hexPadded 8 c.toNat

/-- The quoted form of a text. -/
def quoted (s : String) : String :=
  let mark := quoteMark s.toList
  String.ofList (mark :: (s.toList.flatMap (quotedChar mark) ++ [mark]))

end Stencil.Text
