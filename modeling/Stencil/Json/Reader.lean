/-
# Reading JSON

The reader takes a text to one value. A number with a fraction or an exponent is a
binary number and any other one an integer; the words for the numbers that are not
finite are accepted. Of a repeated name the last value counts. An escape that spells
half of a pair, with no other half behind it, reads as what stands for it. The first
fault ends the reading, together with the text that was left at that point.
-/

import Stencil.Json.Error
import Stencil.Machine
import Stencil.Number.Numeral
import Stencil.Value.Basic

namespace Stencil.Json

/-- Why reading stopped: at a fault, with the text left there, or at an integer
with too many digits. -/
inductive Stop
  | malformed (fault : Fault) (left : List Char)
  | tooManyDigits (count : Nat)
  deriving DecidableEq, Repr

/-- A reading step gives a result and the text that follows. -/
abbrev Step (α : Type) := Except Stop (α × List Char)

/-- Whether a character may stand between tokens. -/
def isGap (c : Char) : Bool := c == ' ' || c == '\t' || c == '\n' || c == '\r'

/-- The text after the gap in front. -/
def skipGap (cs : List Char) : List Char := cs.dropWhile isGap

/-- The value of a hexadecimal digit. -/
def hexValue? (c : Char) : Option Nat :=
  if c.isDigit then some (c.toNat - '0'.toNat)
  else if 'a' ≤ c ∧ c ≤ 'f' then some (c.toNat - 'a'.toNat + 10)
  else if 'A' ≤ c ∧ c ≤ 'F' then some (c.toNat - 'A'.toNat + 10)
  else none

/-- The code unit of four hexadecimal digits in front. One more character has to
follow them. -/
def codeUnit? : List Char → Option Nat
  | a :: b :: c :: d :: _ :: _ => do
    let a ← hexValue? a
    let b ← hexValue? b
    let c ← hexValue? c
    let d ← hexValue? d
    some (((a * 16 + b) * 16 + c) * 16 + d)
  | _ => none

/-- The code unit of a second escape in front that completes a pair. -/
def lowUnit? : List Char → Option Nat
  | '\\' :: 'u' :: rest =>
    (codeUnit? rest).filter fun unit => 0xDC00 ≤ unit && unit ≤ 0xDFFF
  | _ => none

/-- The character of an escape, given the text after the backslash, and how many
characters of that text the escape takes. -/
def escape [Machine] (afterBackslash : List Char) : Except Fault (Char × Nat) :=
  match afterBackslash with
  | '"' :: _ => .ok ('"', 1)
  | '\\' :: _ => .ok ('\\', 1)
  | '/' :: _ => .ok ('/', 1)
  | 'b' :: _ => .ok ('\x08', 1)
  | 'f' :: _ => .ok ('\x0c', 1)
  | 'n' :: _ => .ok ('\n', 1)
  | 'r' :: _ => .ok ('\r', 1)
  | 't' :: _ => .ok ('\t', 1)
  | 'u' :: rest =>
    match codeUnit? rest with
    | none => .error .escapeCodeInvalid
    | some unit =>
      if 0xD800 ≤ unit ∧ unit ≤ 0xDBFF then
        match lowUnit? (rest.drop 4) with
        | some low => .ok (Char.ofNat (0x10000 + (unit - 0xD800) * 0x400 + (low - 0xDC00)), 11)
        | none => .ok (Machine.standIn unit, 5)
      else if 0xDC00 ≤ unit ∧ unit ≤ 0xDFFF then .ok (Machine.standIn unit, 5)
      else .ok (Char.ofNat unit, 5)
  | _ => .error .escapeUnknown

/-- Reads the inside of a quoted text up to its closing quote, after skipping
`skip` characters that an escape has taken. `opening` is the text from the opening
quote on, where a missing closing quote is reported. -/
def textBody [Machine] (opening : List Char) : Nat → List Char → Step (List Char)
  | _, [] => .error (.malformed .textUnterminated opening)
  | skip + 1, _ :: rest => textBody opening skip rest
  | 0, c :: rest =>
    if c = '"' then .ok ([], rest)
    else if c = '\\' then
      if rest = [] then .error (.malformed .textUnterminated opening)
      else
        match escape rest with
        | .error .escapeCodeInvalid => .error (.malformed .escapeCodeInvalid rest)
        | .error fault => .error (.malformed fault (c :: rest))
        | .ok (escaped, width) =>
          match textBody opening width rest with
          | .ok (body, left) => .ok (escaped :: body, left)
          | .error stop => .error stop
    else if c.toNat < 0x20 then .error (.malformed .controlCharacter (c :: rest))
    else
      match textBody opening 0 rest with
      | .ok (body, left) => .ok (c :: body, left)
      | .error stop => .error stop

/-- Splits a run of digits, at least one, from the front. -/
def digits? (cs : List Char) : Option (List Char × List Char) :=
  match cs.takeWhile Char.isDigit with
  | [] => none
  | run => some (run, cs.dropWhile Char.isDigit)

/-- Splits the whole part of a number from the front: a zero, or digits that do not
begin with one. -/
def wholePart? : List Char → Option (List Char × List Char)
  | '0' :: rest => some (['0'], rest)
  | cs => digits? cs

/-- Splits a point with digits from the front; without them it takes nothing. -/
def fractionPart : List Char → List Char × List Char
  | '.' :: rest =>
    match digits? rest with
    | some (run, left) => ('.' :: run, left)
    | none => ([], '.' :: rest)
  | cs => ([], cs)

/-- Splits an exponent from the front; without digits it takes nothing. -/
def exponentPart : List Char → List Char × List Char
  | [] => ([], [])
  | mark :: rest =>
    if mark = 'e' ∨ mark = 'E' then
      let (sign, unsigned) :=
        match rest with
        | '-' :: left => (['-'], left)
        | '+' :: left => (['+'], left)
        | left => ([], left)
      match digits? unsigned with
      | some (run, left) => (mark :: (sign ++ run), left)
      | none => ([], mark :: rest)
    else ([], mark :: rest)

/-- The integer of a sign and digits, unless there are too many of them. -/
def integer (negative : Bool) (run : List Char) : Except Stop Value :=
  if 4300 < run.length then .error (.tooManyDigits run.length)
  else
    let magnitude : Int := Numeral.digitsValue run
    .ok (.int (if negative then -magnitude else magnitude))

/-- Reads a number. -/
def number (cs : List Char) : Step Value :=
  let (negative, unsigned) :=
    match cs with
    | '-' :: rest => (true, rest)
    | rest => (false, rest)
  match wholePart? unsigned with
  | none => .error (.malformed .valueExpected cs)
  | some (whole, afterWhole) =>
    let (fraction, afterFraction) := fractionPart afterWhole
    let (exponent, left) := exponentPart afterFraction
    if fraction = [] ∧ exponent = [] then
      (integer negative whole).map fun v => (v, left)
    else
      match Numeral.decimal? negative (whole ++ fraction ++ exponent) with
      | some x => .ok (.float x, left)
      | none => .error (.malformed .valueExpected cs)

/-- The words that stand for a value. -/
def words : List (List Char × Value) :=
  [("null".toList, .null), ("true".toList, .bool true), ("false".toList, .bool false),
   ("NaN".toList, .float .nan), ("Infinity".toList, .float (.infinite false)),
   ("-Infinity".toList, .float (.infinite true))]

/-- Reads a word in front. -/
def word? (cs : List Char) : Option (Value × List Char) :=
  words.findSome? fun (spelling, v) =>
    if spelling.isPrefixOf cs then some (v, cs.drop spelling.length) else none

/-- Reads a word or a number. -/
def scalar (cs : List Char) : Step Value :=
  match word? cs with
  | some step => .ok step
  | none => number cs

mutual

/-- Reads the value in front. Every call in it spends fuel, of which twice the
length of the text and one more is enough. -/
def value [Machine] : Nat → List Char → Step Value
  | 0, cs => .error (.malformed .valueExpected cs)
  | fuel + 1, cs =>
    match cs with
    | '"' :: rest =>
      match textBody cs 0 rest with
      | .ok (body, left) => .ok (.text (String.ofList body), left)
      | .error stop => .error stop
    | '[' :: rest =>
      match skipGap rest with
      | ']' :: left => .ok (.list [], left)
      | first =>
        match elements fuel first with
        | .ok (items, left) => .ok (.list items, left)
        | .error stop => .error stop
    | '{' :: rest =>
      match skipGap rest with
      | '}' :: left => .ok (.object [], left)
      | first =>
        match members fuel first with
        | .ok (entries, left) => .ok (.object (Record.ofEntries entries).entries, left)
        | .error stop => .error stop
    | _ => scalar cs

/-- Reads the elements of a list and its closing bracket. -/
def elements [Machine] : Nat → List Char → Step (List Value)
  | 0, cs => .error (.malformed .valueExpected cs)
  | fuel + 1, cs =>
    match value fuel cs with
    | .error stop => .error stop
    | .ok (first, afterFirst) =>
      match skipGap afterFirst with
      | ']' :: left => .ok ([first], left)
      | ',' :: rest =>
        match elements fuel (skipGap rest) with
        | .ok (items, left) => .ok (first :: items, left)
        | .error stop => .error stop
      | left => .error (.malformed .commaExpected left)

/-- Reads the members of an object and its closing brace. -/
def members [Machine] : Nat → List Char → Step (List (String × Value))
  | 0, cs => .error (.malformed .nameExpected cs)
  | fuel + 1, cs =>
    match cs with
    | '"' :: rest =>
      match textBody cs 0 rest with
      | .error stop => .error stop
      | .ok (name, afterName) =>
        match skipGap afterName with
        | ':' :: afterColon =>
          match value fuel (skipGap afterColon) with
          | .error stop => .error stop
          | .ok (v, afterValue) =>
            match skipGap afterValue with
            | '}' :: left => .ok ([(String.ofList name, v)], left)
            | ',' :: more =>
              match members fuel (skipGap more) with
              | .ok (entries, left) => .ok ((String.ofList name, v) :: entries, left)
              | .error stop => .error stop
            | left => .error (.malformed .commaExpected left)
        | left => .error (.malformed .colonExpected left)
    | _ => .error (.malformed .nameExpected cs)

end

/-- Reads one value that fills the whole text but for gaps around it. -/
def document [Machine] (cs : List Char) : Except Stop Value :=
  match value (2 * cs.length + 1) (skipGap cs) with
  | .error stop => .error stop
  | .ok (v, afterValue) =>
    match skipGap afterValue with
    | [] => .ok v
    | left => .error (.malformed .extraData left)

/-- The error of a stop in a text. -/
def Stop.toError (cs : List Char) : Stop → Error
  | .malformed fault left => .malformed fault (Position.after (cs.take (cs.length - left.length)))
  | .tooManyDigits count => .tooManyDigits count

/-- Reads a decoded text, where a byte order mark in front is no gap. -/
def readChars [Machine] (cs : List Char) : Except Error Value :=
  (document cs).mapError (Stop.toError cs)

/-- Reads a text. A byte order mark in front is refused. -/
def readText [Machine] (s : String) : Except Error Value :=
  if s.toList.head? = some '\uFEFF' then .error (.malformed .byteOrderMark ⟨1, 1, 0⟩)
  else readChars s.toList

end Stencil.Json
