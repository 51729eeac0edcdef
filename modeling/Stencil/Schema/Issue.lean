/-
# Issues of a document

A document that does not fit its schema is refused with the list of all places
where it does not fit. Each issue names the place by the keys and positions that
lead to it and says why the value found there is refused.
-/

import Stencil.Number.Layout

namespace Stencil.Schema

/-- One step on the way to a place in a document. -/
inductive Step
  | key (name : String)
  | position (index : Nat)
  deriving DecidableEq, Repr

/-- Why the value at a place is refused. -/
inductive Cause
  | missing
  | notText
  | notNumber
  | notNumeral
  | notBoolean
  | notBooleanWord
  | notInteger
  | notIntegerNumeral
  | notWhole
  | integerTooLarge
  | notFinite
  | notList
  | notObject (model : String)
  | notOneOf (choices : List String)
  | notPath
  | notAtLeast (bound : Nat)
  | notAbove (bound : Nat)
  | rule (statement : String)
  deriving DecidableEq, Repr

/-- The choices as a phrase: commas, and an "or" before the last. -/
def choicePhrase : List String → String
  | [] => ""
  | [only] => "'" ++ only ++ "'"
  | [first, last] => "'" ++ first ++ "' or '" ++ last ++ "'"
  | first :: rest => "'" ++ first ++ "', " ++ choicePhrase rest

namespace Cause

/-- The code of a cause, which programs can tell apart. -/
def code : Cause → String
  | .missing => "missing"
  | .notText => "string_type"
  | .notNumber => "float_type"
  | .notNumeral => "float_parsing"
  | .notBoolean => "bool_type"
  | .notBooleanWord => "bool_parsing"
  | .notInteger => "int_type"
  | .notIntegerNumeral => "int_parsing"
  | .notWhole => "int_from_float"
  | .integerTooLarge => "int_parsing_size"
  | .notFinite => "finite_number"
  | .notList => "list_type"
  | .notObject _ => "model_type"
  | .notOneOf _ => "enum"
  | .notPath => "path_type"
  | .notAtLeast _ => "greater_than_equal"
  | .notAbove _ => "greater_than"
  | .rule _ => "value_error"

/-- The message of a cause, which people can read. -/
def message : Cause → String
  | .missing => "Field required"
  | .notText => "Input should be a valid string"
  | .notNumber => "Input should be a valid number"
  | .notNumeral => "Input should be a valid number, unable to parse string as a number"
  | .notBoolean => "Input should be a valid boolean"
  | .notBooleanWord => "Input should be a valid boolean, unable to interpret input"
  | .notInteger => "Input should be a valid integer"
  | .notIntegerNumeral => "Input should be a valid integer, unable to parse string as an integer"
  | .notWhole => "Input should be a valid integer, got a number with a fractional part"
  | .integerTooLarge => "Unable to parse input string as an integer, exceeded maximum size"
  | .notFinite => "Input should be a finite number"
  | .notList => "Input should be a valid list"
  | .notObject model => "Input should be a valid dictionary or instance of " ++ model
  | .notOneOf choices => "Input should be " ++ choicePhrase choices
  | .notPath => "Input is not a valid path for <class 'pathlib.Path'>"
  | .notAtLeast bound => "Input should be greater than or equal to " ++ toString bound
  | .notAbove bound => "Input should be greater than " ++ toString bound
  | .rule statement => "Value error, " ++ statement

end Cause

/-- A place in a document and why the value there is refused. -/
structure Issue where
  location : List Step
  cause : Cause
  deriving DecidableEq, Repr

/-- The summary line of a list of issues found in a model. -/
def summary (model : String) (issues : List Issue) : String :=
  toString issues.length ++ (if issues.length = 1 then " validation error" else " validation errors") ++
    " for " ++ model

end Stencil.Schema
