/-
# Filling in defaults

The default value of a field fills the gap of a record whose key is missing or
null, and replaces nothing else.
-/

import Stencil.Template.Basic

namespace Stencil.Record

/-- Fills the gap that one field has a default for. -/
def fill (record : Record) (field : Field) : Record :=
  match field.defaultValue with
  | none => record
  | some value =>
    if (record.value field.key).isNull then record.insert field.key value.toValue else record

/-- Fills the gaps of a record with the defaults of fields, one field after the
other. -/
def withDefaults (record : Record) (fields : List Field) : Record :=
  fields.foldl fill record

end Stencil.Record
