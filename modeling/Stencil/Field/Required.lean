/-
# Required fields

A required field is missing when its value is absent, null or the empty text.
-/

import Stencil.Template.Basic

namespace Stencil

/-- Whether a required field has no value. -/
def Field.isMissing (field : Field) (data : Record) : Bool :=
  field.isRequired && !(data.value field.key).isPresent

/-- The keys of the required fields without a value, each once, in field order. -/
def missingKeys (fields : List Field) (data : Record) : List String :=
  fields.foldl (fun missing field =>
    if field.isMissing data && !missing.contains field.key then missing ++ [field.key]
    else missing) []

end Stencil
