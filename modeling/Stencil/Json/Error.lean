/-
# What is wrong with a JSON text

A fault says what the reader missed; the place where it stood is a separate
matter, found from the text that was left to read. A number with too many digits
is refused as a whole and has no place.
-/

namespace Stencil.Json

/-- What the reader found wrong. -/
inductive Fault
  | valueExpected
  | nameExpected
  | colonExpected
  | commaExpected
  | textUnterminated
  | controlCharacter
  | escapeUnknown
  | escapeCodeInvalid
  | extraData
  | byteOrderMark
  deriving DecidableEq, Repr

/-- The wording of a fault. -/
def Fault.wording : Fault → String
  | .valueExpected => "Expecting value"
  | .nameExpected => "Expecting property name enclosed in double quotes"
  | .colonExpected => "Expecting ':' delimiter"
  | .commaExpected => "Expecting ',' delimiter"
  | .textUnterminated => "Unterminated string starting at"
  | .controlCharacter => "Invalid control character at"
  | .escapeUnknown => "Invalid \\escape"
  | .escapeCodeInvalid => "Invalid \\uXXXX escape"
  | .extraData => "Extra data"
  | .byteOrderMark => "Unexpected UTF-8 BOM (decode using utf-8-sig)"

/-- A place in a text. Lines and columns count from one. -/
structure Position where
  line : Nat
  column : Nat
  offset : Nat
  deriving DecidableEq, Repr

/-- The place after `before`. -/
def Position.after (before : List Char) : Position :=
  ⟨before.count '\n' + 1, (before.reverse.takeWhile (· ≠ '\n')).length + 1, before.length⟩

/-- Why a JSON text has no value. -/
inductive Error
  | malformed (fault : Fault) (position : Position)
  | tooManyDigits (count : Nat)
  deriving DecidableEq, Repr

/-- The message of an error. -/
def Error.message : Error → String
  | .malformed fault position =>
    fault.wording ++ ": line " ++ toString position.line ++ " column " ++
      toString position.column ++ " (char " ++ toString position.offset ++ ")"
  | .tooManyDigits count =>
    "Exceeds the limit (4300 digits) for integer string conversion: value has " ++
      toString count ++ " digits; use sys.set_int_max_str_digits() to increase the limit"

end Stencil.Json
