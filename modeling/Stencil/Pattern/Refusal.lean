/-
# Patterns that are refused

Most texts that are no pattern are passed over, because the constraint they were
meant to state cannot be checked. A few are refused instead and end the work on the
whole document.
-/

namespace Stencil.Pattern

/-- Why a text is refused as a pattern, or a match of it. -/
inductive Refusal
  | repeatTooLarge
  | flagsClash
  | repeatTooLong (digits : Nat)
  | looksTooFar
  | spanReversed
  deriving DecidableEq, Repr

/-- The message of a refusal. -/
def Refusal.message : Refusal → String
  | .repeatTooLarge => "the repetition number is too large"
  | .flagsClash => "ASCII and UNICODE flags are incompatible"
  | .repeatTooLong digits =>
    "Exceeds the limit (4300 digits) for integer string conversion: value has " ++
      toString digits ++ " digits; use sys.set_int_max_str_digits() to increase the limit"
  | .looksTooFar => "invalid SRE code"
  | .spanReversed =>
    "The span of capturing group is wrong, please report a bug for the re module."

end Stencil.Pattern
