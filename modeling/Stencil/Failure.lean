/-
# Failures

A failure is the cause for which an operation has no result. The wording of every
failure is a function of its cause, so that causes can be told apart without
reading messages.
-/

import Stencil.Json.Error
import Stencil.Pattern.Refusal
import Stencil.Schema.Issue
import Stencil.Text.Encoding
import Stencil.Text.Quoted

namespace Stencil

/-- Why a path cannot be used. -/
inductive PathFault
  | notFound
  | exists
  | notDirectory
  | isDirectory
  | nameTooLong
  deriving DecidableEq, Repr

/-- The number and the wording of a fault. -/
def PathFault.wording : PathFault → String
  | .notFound => "[Errno 2] No such file or directory"
  | .exists => "[Errno 17] File exists"
  | .notDirectory => "[Errno 20] Not a directory"
  | .isDirectory => "[Errno 21] Is a directory"
  | .nameTooLong => "[Errno 36] File name too long"

/-- Why an operation has no result. -/
inductive Failure
  | tooManyDigits
  | nestedTooDeep
  | dataNotRecord (typeName : String)
  | lookupUnsupported (typeName : String)
  | notIterable (typeName : String)
  | entryNotIterable (index : Nat)
  | entryNotPair (index length : Nat)
  | keyUnusable (typeName : String)
  | contentNotText (typeName : String)
  | sourceUnsupported (typeName : String)
  | sourceMalformed (fault : Json.Fault) (position : Json.Position)
  | sourceUndecodable (error : Text.DecodeError)
  | sourceNotObject
  | templateRefused (issues : List Schema.Issue)
  | textMalformed (fault : Json.Fault) (position : Json.Position)
  | textUndecodable (error : Text.DecodeError)
  | numeralTooLong (digits : Nat)
  | modelRefused (model : String) (issues : List Schema.Issue)
  | sectionsNotList (typeName : String)
  | notSection (typeName : String)
  | patternRefused (refusal : Pattern.Refusal)
  | notKind (shown : String)
  | kindUnknown (shown : String) (known : List String)
  | renderersMissing (kinds : List String)
  | templateUnknown (id : String) (known : List String)
  | dividerCountNotInteger (typeName : String)
  | dividerCountTooLarge
  | dividerTooLong
  | dividerExhaustsMemory
  | levelUnknown (name : String)
  | levelNotNamed (shown : String)
  | path (fault : PathFault) (name : String)
  | pathHasNull
  | pathMissing
  | outputUnencodable (position : Nat)
  | indentNegative
  | indentTooLarge
  | indentNotInteger (typeName : String)
  deriving DecidableEq, Repr

namespace Failure

/-- The message of a failure. -/
def message : Failure → String
  | .tooManyDigits =>
    "Exceeds the limit (4300 digits) for integer string conversion; " ++
      "use sys.set_int_max_str_digits() to increase the limit"
  | .nestedTooDeep => "maximum recursion depth exceeded"
  | .dataNotRecord typeName => "data must be a mapping, got " ++ typeName
  | .lookupUnsupported typeName => "'" ++ typeName ++ "' object has no attribute 'get'"
  | .notIterable typeName => "'" ++ typeName ++ "' object is not iterable"
  | .entryNotIterable index =>
    "cannot convert dictionary update sequence element #" ++ toString index ++ " to a sequence"
  | .entryNotPair index length =>
    "dictionary update sequence element #" ++ toString index ++ " has length " ++
      toString length ++ "; 2 is required"
  | .keyUnusable typeName => "unhashable type: '" ++ typeName ++ "'"
  | .contentNotText typeName => "content must be a string, got " ++ typeName
  | .sourceUnsupported typeName => "Unsupported template source: " ++ typeName
  | .sourceMalformed fault position =>
    "Template configuration is not valid JSON: " ++ (Json.Error.malformed fault position).message
  | .sourceUndecodable error => "Template configuration is not valid JSON: " ++ error.message
  | .sourceNotObject => "Template configuration must be a JSON object"
  | .templateRefused issues =>
    "Invalid template configuration: " ++ Schema.summary "Template" issues
  | .textMalformed fault position => (Json.Error.malformed fault position).message
  | .textUndecodable error => error.message
  | .numeralTooLong digits => (Json.Error.tooManyDigits digits).message
  | .modelRefused model issues => Schema.summary model issues
  | .sectionsNotList typeName => "template sections must be a list, got " ++ typeName
  | .notSection typeName => "'" ++ typeName ++ "' object has no attribute 'conditional'"
  | .patternRefused refusal => refusal.message
  | .notKind shown => shown ++ " is not a valid SectionKind"
  | .kindUnknown shown known =>
    "Unknown section kind: " ++ shown ++ ". Valid options: " ++ ", ".intercalate known
  | .renderersMissing kinds =>
    "No renderer registered for section kind(s): " ++ ", ".intercalate kinds
  | .templateUnknown id known =>
    "Unknown default template: " ++ id ++ ". Valid options: " ++ ", ".intercalate known
  | .dividerCountNotInteger typeName =>
    "can't multiply sequence by non-int of type '" ++ typeName ++ "'"
  | .dividerCountTooLarge => "cannot fit 'int' into an index-sized integer"
  | .dividerTooLong => "repeated string is too long"
  | .dividerExhaustsMemory => ""
  | .levelUnknown name => "Unknown level: " ++ Text.quoted name
  | .levelNotNamed shown => "Level not an integer or a valid string: " ++ shown
  | .path fault name => fault.wording ++ ": " ++ Text.quoted name
  | .pathHasNull => "embedded null byte"
  | .pathMissing => "'list' object has no attribute 'read_text'"
  | .outputUnencodable position =>
    "codec can't encode character in position " ++ toString position
  | .indentNegative => "can't convert negative int to unsigned"
  | .indentTooLarge => "int too big to convert"
  | .indentNotInteger typeName =>
    "argument 'indent': '" ++ typeName ++ "' object cannot be interpreted as an integer"

/-- The issues a failure was made of. -/
def issues : Failure → List Schema.Issue
  | .templateRefused issues => issues
  | .modelRefused _ issues => issues
  | _ => []

end Failure

end Stencil
