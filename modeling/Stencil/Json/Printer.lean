/-
# Printing JSON

A style fixes the line breaks and how binary numbers are written; all else is the
same for every printed value. Only the quotation mark, the backslash and the
control characters are escaped.
-/

import Stencil.Number.Layout
import Stencil.Text.Quoted
import Stencil.Value.Basic

namespace Stencil.Json

/-- How a value is printed: on one line without gaps, or each element on a line of
its own, indented by `indent` characters a level. -/
structure Style where
  indent : Option Nat
  number : Binary64 → List Char

namespace Style

/-- What stands in front of an element at some depth. -/
def lineBreak (style : Style) (depth : Nat) : List Char :=
  match style.indent with
  | none => []
  | some width => '\n' :: List.replicate (width * depth) ' '

/-- What stands between a name and its value. -/
def colon (style : Style) : List Char :=
  match style.indent with
  | none => [':']
  | some _ => [':', ' ']

end Style

/-- The escape of a character, if it needs one. -/
def escaped (c : Char) : List Char :=
  if c = '"' then ['\\', '"']
  else if c = '\\' then ['\\', '\\']
  else if c = '\x08' then ['\\', 'b']
  else if c = '\x0c' then ['\\', 'f']
  else if c = '\n' then ['\\', 'n']
  else if c = '\r' then ['\\', 'r']
  else if c = '\t' then ['\\', 't']
  else if c.toNat < 0x20 then '\\' :: 'u' :: Text.hexPadded 4 c.toNat
  else [c]

/-- A text in quotes. -/
def quotedText (s : String) : List Char :=
  '"' :: (s.toList.flatMap escaped ++ ['"'])

/-- The digits of an integer. -/
def integerText (i : Int) : List Char :=
  (if i < 0 then ['-'] else []) ++ Nat.toDigits 10 i.natAbs

mutual

/-- A value printed at some depth. -/
def printAt (style : Style) (depth : Nat) : Value → List Char
  | .null => "null".toList
  | .bool b => if b then "true".toList else "false".toList
  | .int i => integerText i
  | .float x => style.number x
  | .text s => quotedText s
  | .list [] => ['[', ']']
  | .list (first :: rest) =>
    '[' :: (style.lineBreak (depth + 1) ++ printAt style (depth + 1) first ++
      printItems style (depth + 1) rest ++ style.lineBreak depth ++ [']'])
  | .object [] => ['{', '}']
  | .object ((name, first) :: rest) =>
    '{' :: (style.lineBreak (depth + 1) ++ quotedText name ++ style.colon ++
      printAt style (depth + 1) first ++
      printEntries style (depth + 1) rest ++ style.lineBreak depth ++ ['}'])

/-- The further elements of a list, a comma in front of each. -/
def printItems (style : Style) (depth : Nat) : List Value → List Char
  | [] => []
  | v :: rest =>
    ',' :: (style.lineBreak depth ++ printAt style depth v ++ printItems style depth rest)

/-- The further entries of an object, a comma in front of each. -/
def printEntries (style : Style) (depth : Nat) : List (String × Value) → List Char
  | [] => []
  | (name, v) :: rest =>
    ',' :: (style.lineBreak depth ++ quotedText name ++ style.colon ++ printAt style depth v ++
      printEntries style depth rest)

end

/-- The text of a value. -/
def print (style : Style) (v : Value) : String := String.ofList (printAt style 0 v)

/-- The style of stored templates. -/
def storedStyle (indent : Option Nat) : Style := ⟨indent, Layout.stored.shortestText⟩

/-- The style of printed documents, two characters a level. -/
def documentStyle : Style := ⟨some 2, Layout.printed.shortestText⟩

end Stencil.Json
