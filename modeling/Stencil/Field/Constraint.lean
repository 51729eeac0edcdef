/-
# Constraints on field values

A field may limit its values: a number or the length of a text by a least and a
greatest limit, any display text by a pattern, and a choice by the options offered.
Values that break a rule are reported in field order and stop nothing. A pattern that
is no pattern is noted and passed over; one that is nested too deep to be read is not.
-/

import Stencil.Log.Trace
import Stencil.Number.Numeral
import Stencil.Pattern.Matcher
import Stencil.Pattern.Reader
import Stencil.Value.Display

namespace Stencil

/-- The rules that a value can break. -/
inductive Rule
  | number | min | max | pattern | options
  deriving DecidableEq, Repr

/-- The name of a rule. -/
def Rule.name : Rule → String
  | .number => "number"
  | .min => "min"
  | .max => "max"
  | .pattern => "pattern"
  | .options => "options"

/-- A value that breaks a rule of its field. -/
structure Violation where
  key : String
  rule : Rule
  message : String
  deriving DecidableEq, Repr

/-- The number that a value is read as. Booleans are no numbers. -/
def Value.number? : Value → Option Number
  | .int i => some (.int i)
  | .float x => some (.float x)
  | .text s => (Numeral.readData? s).map .float
  | _ => none

namespace FieldRules

/-- The message of the rules, or a message made for the case when they have none. -/
def messageOr (rules : FieldRules) (made : String) : String :=
  match rules.message with
  | some message => if message = "" then made else message
  | none => made

/-- Whether a least or a greatest limit is set. -/
def hasLimits (rules : FieldRules) : Bool := rules.min.isSome || rules.max.isSome

/-- Whether a measure lies below the least limit. -/
def isTooSmall (rules : FieldRules) (measure : Number) : Bool :=
  rules.min.any fun limit => measure.lt (.float limit)

/-- Whether a measure lies above the greatest limit. -/
def isTooLarge (rules : FieldRules) (measure : Number) : Bool :=
  rules.max.any fun limit => (Number.float limit).lt measure

end FieldRules

namespace Field

/-- The message for a limit that a measure misses. -/
def limitMessage (field : Field) (what relation : String) (limit : Option Binary64) : String :=
  field.label ++ " " ++ what ++ " must be " ++ relation ++ " " ++
    String.ofList (limit.elim [] Layout.limitText)

/-- The limits that a measure misses: the least limit before the greatest. -/
def limitViolations (field : Field) (rules : FieldRules) (what : String) (measure : Number) :
    List Violation :=
  (if rules.isTooSmall measure then
    [⟨field.key, .min, rules.messageOr (field.limitMessage what "at least" rules.min)⟩]
  else []) ++
  (if rules.isTooLarge measure then
    [⟨field.key, .max, rules.messageOr (field.limitMessage what "at most" rules.max)⟩]
  else [])

/-- Checks a present value against the limits of its field. -/
def rangeViolations [Machine] (field : Field) (v : Value) : Except Failure (List Violation) :=
  match field.rules with
  | none => .ok []
  | some rules =>
    if !rules.hasLimits then .ok []
    else if field.type = .number then
      match v.number? with
      | none => .ok [⟨field.key, .number, field.label ++ " must be a number"⟩]
      | some n => .ok (field.limitViolations rules "value" n)
    else if field.type.isTextual then
      (v.display .lengthCheck).map fun shown => field.limitViolations rules "length" (.int shown.length)
    else .ok []

/-- Checks a present value against the pattern of its field. -/
def patternViolations [Machine] (field : Field) (v : Value) : Traced (List Violation) :=
  match field.rules.bind fun rules => rules.pattern.map fun text => (rules, text) with
  | none => pure []
  | some (rules, text) =>
    if text = "" then pure []
    else if !Machine.allows (.pattern text) then .fail .nestedTooDeep
    else
      match Pattern.read text with
      | .refused refusal => .fail (.patternRefused refusal)
      | .noPattern => do
        Traced.note (.patternIgnored field.key (Machine.patternFault text))
        pure []
      | .pattern pattern =>
        .ofExcept ((v.display .patternCheck).bind fun shown =>
          match pattern.matchesWhole shown with
          | .error refusal => .error (.patternRefused refusal)
          | .ok true => .ok []
          | .ok false =>
            .ok [⟨field.key, .pattern,
              rules.messageOr (field.label ++ " has an invalid format")⟩])

/-- The choices that a value makes: each item of a list, or the value itself. -/
def choicesOf : Value → List Value
  | .list items => items
  | v => [v]

/-- Checks a present value against the options of its field. -/
def optionViolations [Machine] (field : Field) (v : Value) : Except Failure (List Violation) :=
  let options := field.options.getD []
  if options.isEmpty || !field.type.isChoice then .ok []
  else
    ((choicesOf v).mapM (Value.display · .optionCheck)).map fun shown =>
      let offered := options.map FieldOption.value
      let unknown := shown.filter fun s => !offered.contains s
      if unknown.isEmpty then []
      else
        [⟨field.key, .options,
          field.label ++ " has unknown option(s): " ++ ", ".intercalate unknown⟩]

/-- The rules that the value of a field breaks. Only a present value can break any. -/
def violations [Machine] (field : Field) (data : Record) : Traced (List Violation) :=
  let v := data.value field.key
  if v.isPresent then do
    let range ← Traced.ofExcept (field.rangeViolations v)
    let pattern ← field.patternViolations v
    let options ← Traced.ofExcept (field.optionViolations v)
    pure (range ++ pattern ++ options)
  else pure []

end Field

/-- The rules that the values of a record break, in field order. -/
def brokenRules [Machine] (data : Record) : List Field → Traced (List Violation)
  | [] => pure []
  | field :: rest => do
    let first ← field.violations data
    let others ← brokenRules data rest
    pure (first ++ others)

end Stencil
