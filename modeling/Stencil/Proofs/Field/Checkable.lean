/-
# When a value can be checked

Checking a value against its field reads the text of the value for three rules: limits
on a length, a pattern, and options. It fails exactly when a rule reads a text that the
value has not, or when the pattern itself is nested too deep or refused, by the reader of
patterns or by the match. A text that is no pattern at all is passed over and fails
nothing.
-/

import Stencil.Field.Constraint
import Stencil.Proofs.Record
import Stencil.Render.Node

namespace Stencil

namespace Field

/-- Whether a field limits the length of the text of its value. -/
def limitsLength (f : Field) : Bool :=
  f.rules.any FieldRules.hasLimits && f.type.isTextual

/-- Whether a field offers the options for its value. -/
def limitsChoice (f : Field) : Bool := !(f.options.getD []).isEmpty && f.type.isChoice

/-- The pattern that a field sets. The empty text sets none. -/
def patternText? (f : Field) : Option String :=
  (f.rules.bind FieldRules.pattern).bind Render.nonEmpty?

/-- A pattern can be checked on a value: it is not nested too deep and not refused, and if
it is a pattern then the value has a text and the match of it is not refused either. -/
def PatternEnds [Machine] (text : String) (v : Value) : Prop :=
  Machine.allows (.pattern text) = true ∧
    match Pattern.read text with
    | .refused _ => False
    | .noPattern => True
    | .pattern pattern =>
      v.hasText .patternCheck = true ∧
        ∀ refusal, pattern.matchesWhole v.displayText ≠ .error refusal

/-- A value can be checked against its field. A value that is not present is not
checked at all. -/
def IsCheckable [Machine] (f : Field) (v : Value) : Prop :=
  v.isPresent = true →
    (f.limitsLength = true → v.hasText .lengthCheck = true) ∧
    (∀ text, f.patternText? = some text → PatternEnds text v) ∧
    (f.limitsChoice = true → ∀ choice ∈ choicesOf v, choice.hasText .optionCheck = true)

/-- The machine gets by with the calls that checking a value against its field takes. -/
def HasRoom [Machine] (f : Field) (v : Value) : Prop :=
  v.isPresent = true →
    (f.limitsLength = true → Machine.allows (.showing .lengthCheck v) = true) ∧
    (∀ text, f.patternText? = some text →
      Machine.allows (.pattern text) = true ∧
        ∀ pattern, Pattern.read text = .pattern pattern →
          Machine.allows (.showing .patternCheck v) = true) ∧
    (f.limitsChoice = true →
      ∀ choice ∈ choicesOf v, Machine.allows (.showing .optionCheck choice) = true)

variable {f : Field} {v : Value}

theorem hasRoom_standard : f.HasRoom v := by simp [HasRoom]

/-- What is reported of a text under the pattern of a field. -/
def matchViolations [Machine] (f : Field) (pattern : Pattern.Expression) (shown : String) :
    Except Failure (List Violation) :=
  match pattern.matchesWhole shown with
  | .error refusal => .error (.patternRefused refusal)
  | .ok true => .ok []
  | .ok false =>
    .ok [⟨f.key, .pattern, (f.rules.getD {}).messageOr (f.label ++ " has an invalid format")⟩]

/-- The check of the pattern is one of the pattern that a field sets, if it sets one. -/
theorem patternViolations_eq [Machine] :
    f.patternViolations v =
      match f.patternText? with
      | none => pure []
      | some text =>
        if !Machine.allows (.pattern text) then .fail .nestedTooDeep
        else
          match Pattern.read text with
          | .refused refusal => .fail (.patternRefused refusal)
          | .noPattern => do
            Traced.note (.patternIgnored f.key (Machine.patternFault text))
            pure []
          | .pattern pattern =>
            .ofExcept ((v.display .patternCheck).bind (f.matchViolations pattern)) := by
  cases given : f.rules with
  | none => simp [patternViolations, patternText?, given]
  | some rules =>
      cases set : rules.pattern with
      | none => simp [patternViolations, patternText?, given, set]
      | some text =>
          by_cases empty : text = ""
          · simp [patternViolations, patternText?, given, set, empty, Render.nonEmpty?]
          · simp only [patternViolations, patternText?, given, set, empty, Render.nonEmpty?,
              Option.bind_some, Option.map_some, if_false]
            apply ite_congr rfl fun _ => rfl
            intro _
            cases Pattern.read text with
            | pattern pattern =>
                apply congrArg fun check => Traced.ofExcept ((v.display .patternCheck).bind check)
                funext shown
                rw [matchViolations, given]
                rfl
            | _ => rfl

theorem hasResult_rangeViolations [Machine] :
    HasResult (f.rangeViolations v) ↔
      (f.limitsLength = true → v.hasText .lengthCheck = true) := by
  cases given : f.rules with
  | none => simp [rangeViolations, limitsLength, given]
  | some rules =>
      by_cases limits : rules.hasLimits = true
      · by_cases number : f.type = .number
        · have length : f.limitsLength = false := by
            simp [limitsLength, number, FieldType.isTextual]
          cases read : v.number? <;> simp [rangeViolations, given, limits, number, read, length]
        · by_cases textual : f.type.isTextual = true
          · simp [rangeViolations, limitsLength, given, limits, number, textual]
          · simp [rangeViolations, limitsLength, given, limits, number, textual]
      · simp [rangeViolations, limitsLength, given, limits]

theorem hasResult_patternViolations [Machine] :
    HasResult (f.patternViolations v).result ↔
      ∀ text, f.patternText? = some text → PatternEnds text v := by
  rw [patternViolations_eq]
  cases f.patternText? with
  | none => simp
  | some text =>
      simp only [Option.some.injEq, forall_eq', PatternEnds]
      cases allowed : Machine.allows (.pattern text) with
      | false => simp [Traced.fail]
      | true =>
          simp only [Bool.not_true, Bool.false_eq_true, if_false, true_and]
          cases Pattern.read text with
          | refused refusal => simp [Traced.fail]
          | noPattern => simp [Traced.note]
          | pattern pattern =>
              have ended : HasResult (f.matchViolations pattern v.displayText) ↔
                  ∀ refusal, pattern.matchesWhole v.displayText ≠ .error refusal := by
                rw [matchViolations]
                rcases pattern.matchesWhole v.displayText with refusal | _ | _ <;> simp
              simp only [Traced.result_ofExcept, hasResult_bind, ← ended]
              constructor
              · rintro ⟨shown, displayed, made⟩
                obtain rfl := Value.eq_of_display displayed
                exact ⟨Value.hasResult_display.mp ⟨_, displayed⟩, made⟩
              · rintro ⟨has, made⟩
                exact ⟨_, Value.display_of_hasText has, made⟩

theorem isShowable_iff_choicesOf :
    v.isShowable = true ↔ ∀ choice ∈ choicesOf v, choice.isShowable = true := by
  cases v <;> simp [choicesOf, Value.isShowable, Value.areShowable_iff]

/-- The check of the options is skipped for a field that does not limit the choice. -/
theorem isEmpty_or_not_isChoice :
    ((f.options.getD []).isEmpty || !f.type.isChoice) = !f.limitsChoice := by
  rw [limitsChoice, Bool.not_and, Bool.not_not]

theorem hasResult_optionViolations [Machine] :
    HasResult (f.optionViolations v) ↔
      (f.limitsChoice = true → ∀ choice ∈ choicesOf v, choice.hasText .optionCheck = true) := by
  rw [optionViolations, isEmpty_or_not_isChoice]
  by_cases limits : f.limitsChoice = true
  · simp [limits, hasResult_mapM]
  · simp [limits]

/-- A value is checked without failure exactly when it can be checked. -/
theorem hasResult_violations [Machine] {data : Record} :
    HasResult (f.violations data).result ↔ f.IsCheckable (data.value f.key) := by
  by_cases present : (data.value f.key).isPresent = true
  · simp only [violations, present, if_true, IsCheckable, forall_const]
    refine Traced.hasResult_bind_iff hasResult_rangeViolations fun range => ?_
    refine Traced.hasResult_bind_iff hasResult_patternViolations fun pattern => ?_
    simp [hasResult_optionViolations]
  · simp [violations, present, IsCheckable]

end Field

/-- The values of a record are checked without failure exactly when each of them can be
checked against its field. -/
theorem hasResult_brokenRules [Machine] {data : Record} {fields : List Field} :
    HasResult (brokenRules data fields).result ↔
      ∀ f ∈ fields, f.IsCheckable (data.value f.key) := by
  induction fields with
  | nil => simp [brokenRules]
  | cons f rest ih =>
      rw [List.forall_mem_cons, brokenRules]
      refine Traced.hasResult_bind_iff Field.hasResult_violations fun first => ?_
      rw [← ih, bind_pure_comp, Traced.result_map, hasResult_map]

end Stencil
