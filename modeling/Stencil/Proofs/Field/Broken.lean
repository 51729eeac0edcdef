/-
# Which rules are broken

A present value of a field can break five rules, and what is reported of a record are the rules
that are broken, field by field and in one order for every field. Limits are compared with the
number of a number field or with the length of the text of a textual one, on the extended line
and without rounding, so that a limit that is undefined is never missed. What a value breaks is
said here without regard to how it is checked. It depends on the machine in one place, which is
where a possessive repetition in a pattern goes on.
-/

import Stencil.Proofs.Field.Checkable
import Stencil.Proofs.Number.Order

namespace Stencil

open Classical

/-- A value that is no number and no text that a number can be read from. -/
def Value.IsNoNumber : Value → Prop
  | .bool _ | .list _ | .object _ => True
  | .text s => Numeral.readData? s = none
  | .null | .int _ | .float _ => False

/-- The text was refused when it was read as a pattern. -/
def Pattern.Outcome.IsRefused (outcome : Outcome) : Prop := ∃ refusal, outcome = .refused refusal

instance (outcome : Pattern.Outcome) : Decidable outcome.IsRefused :=
  match outcome with
  | .refused refusal => .isTrue ⟨refusal, rfl⟩
  | .pattern _ => .isFalse nofun
  | .noPattern => .isFalse nofun

/-- The rules in the order in which they are reported. -/
def Rule.all : List Rule := [.number, .min, .max, .pattern, .options]

namespace Field

/-- What the limits of a field measure of a value. -/
inductive Measures (f : Field) (v : Value) : Number → Prop
  | number {n : Number} (type : f.type = .number) (read : v.number? = some n) : f.Measures v n
  | length (type : f.type.isTextual = true) : f.Measures v (.int v.displayText.length)

/-- A value breaks a rule of its field. -/
inductive Breaks [Machine] (f : Field) (v : Value) : Rule → Prop
  | number {rules : FieldRules} (given : f.rules = some rules)
      (limited : rules.min ≠ none ∨ rules.max ≠ none) (type : f.type = .number)
      (noNumber : v.IsNoNumber) : f.Breaks v .number
  | min {rules : FieldRules} {limit : Binary64} {measure : Number} (given : f.rules = some rules)
      (set : rules.min = some limit) (measured : f.Measures v measure)
      (below : measure.IsBelow (.float limit)) : f.Breaks v .min
  | max {rules : FieldRules} {limit : Binary64} {measure : Number} (given : f.rules = some rules)
      (set : rules.max = some limit) (measured : f.Measures v measure)
      (above : (Number.float limit).IsBelow measure) : f.Breaks v .max
  | pattern {text : String} {pattern : Pattern.Expression} (set : f.patternText? = some text)
      (reads : Pattern.read text = .pattern pattern)
      (differs : pattern.matchesWhole v.displayText = .ok false) : f.Breaks v .pattern
  | options {choice : Value} (type : f.type.isChoice = true) (offers : f.options.getD [] ≠ [])
      (chosen : choice ∈ choicesOf v)
      (unknown : ∀ option ∈ f.options.getD [], option.value ≠ choice.displayText) :
      f.Breaks v .options

/-- What the limits of a field measure, in words. -/
def measured (f : Field) : String := if f.type = .number then "value" else "length"

/-- The texts of the choices that a field does not offer. -/
def unknownChoices (f : Field) (v : Value) : List String :=
  ((choicesOf v).map Value.displayText).filter fun shown =>
    !((f.options.getD []).map FieldOption.value).contains shown

/-- What is said of a value that breaks a rule. The rules of a field may have a message of
their own for limits and patterns. -/
def complaint (f : Field) (v : Value) (rule : Rule) : String :=
  let rules := f.rules.getD {}
  match rule with
  | .number => f.label ++ " must be a number"
  | .min => rules.messageOr (f.limitMessage f.measured "at least" rules.min)
  | .max => rules.messageOr (f.limitMessage f.measured "at most" rules.max)
  | .pattern => rules.messageOr (f.label ++ " has an invalid format")
  | .options => f.label ++ " has unknown option(s): " ++ ", ".intercalate (f.unknownChoices v)

/-- The report on those of some rules that a value breaks. -/
noncomputable def reportOn [Machine] (f : Field) (v : Value) (rules : List Rule) : List Violation :=
  (rules.filter fun rule => decide (f.Breaks v rule)).map fun rule =>
    ⟨f.key, rule, f.complaint v rule⟩

/-- The report on all rules that a value breaks. Only a present value can break any. -/
noncomputable def report [Machine] (f : Field) (v : Value) : List Violation :=
  if v.isPresent = true then f.reportOn v Rule.all else []

variable [Machine] {f : Field} {v : Value} {rules : FieldRules} {measure : Number}

theorem reportOn_append (first second : List Rule) :
    f.reportOn v (first ++ second) = f.reportOn v first ++ f.reportOn v second := by
  simp [reportOn]

theorem reportOn_cons_of_breaks {rule : Rule} (rest : List Rule) (broken : f.Breaks v rule) :
    f.reportOn v (rule :: rest) = ⟨f.key, rule, f.complaint v rule⟩ :: f.reportOn v rest := by
  simp [reportOn, broken]

theorem reportOn_cons_of_not_breaks {rule : Rule} (rest : List Rule)
    (kept : ¬ f.Breaks v rule) : f.reportOn v (rule :: rest) = f.reportOn v rest := by
  simp [reportOn, kept]

theorem reportOn_eq_nil {listed : List Rule} (kept : ∀ rule ∈ listed, ¬ f.Breaks v rule) :
    f.reportOn v listed = [] := by
  simpa [reportOn] using kept

omit [Machine] in
/-- A present value has no number exactly when it is no number and no numeral. -/
theorem number?_eq_none_iff (present : v.isPresent = true) :
    v.number? = none ↔ v.IsNoNumber := by
  cases v with
  | null => cases present
  | text s => simp [Value.number?, Value.IsNoNumber]
  | _ => simp [Value.number?, Value.IsNoNumber]

omit [Machine] in
/-- The limits of a field measure at most one thing of a value. -/
theorem Measures.unique {other : Number} (first : f.Measures v measure)
    (second : f.Measures v other) : measure = other := by
  cases first with
  | number type read =>
      cases second with
      | number _ again => exact Option.some.inj (read.symm.trans again)
      | length textual => simp [type, FieldType.isTextual] at textual
  | length textual =>
      cases second with
      | number type _ => simp [type, FieldType.isTextual] at textual
      | length _ => rfl

theorem breaks_min_iff (given : f.rules = some rules) (measured : f.Measures v measure) :
    f.Breaks v .min ↔ rules.isTooSmall measure = true := by
  rw [FieldRules.isTooSmall, Option.any_eq_true]
  constructor
  · intro broken
    cases broken with
    | min again set also below =>
        obtain rfl := Option.some.inj (given.symm.trans again)
        obtain rfl := measured.unique also
        exact ⟨_, set, Number.lt_iff.mpr below⟩
  · intro missed
    obtain ⟨limit, set, below⟩ := missed
    exact .min given set measured (Number.lt_iff.mp below)

theorem breaks_max_iff (given : f.rules = some rules) (measured : f.Measures v measure) :
    f.Breaks v .max ↔ rules.isTooLarge measure = true := by
  rw [FieldRules.isTooLarge, Option.any_eq_true]
  constructor
  · intro broken
    cases broken with
    | max again set also above =>
        obtain rfl := Option.some.inj (given.symm.trans again)
        obtain rfl := measured.unique also
        exact ⟨_, set, Number.lt_iff.mpr above⟩
  · intro missed
    obtain ⟨limit, set, above⟩ := missed
    exact .max given set measured (Number.lt_iff.mp above)

/-- The limits that a measure misses are reported. -/
theorem limitViolations_eq (given : f.rules = some rules) (measured : f.Measures v measure) :
    f.limitViolations rules f.measured measure = f.reportOn v [.min, .max] := by
  have whole : f.rules.getD {} = rules := by rw [given, Option.getD_some]
  rw [limitViolations]
  by_cases small : rules.isTooSmall measure = true <;>
    by_cases large : rules.isTooLarge measure = true <;>
      simp [reportOn, breaks_min_iff given measured, breaks_max_iff given measured, small, large,
        complaint, whole]

/-- Only a field with limits, for numbers or for texts, has its value checked against them. -/
theorem exists_limits_of_breaks {rule : Rule} (broken : f.Breaks v rule)
    (limit : rule ∈ [Rule.number, .min, .max]) :
    ∃ rules, f.rules = some rules ∧ rules.hasLimits = true ∧
      (f.type = .number ∨ f.type.isTextual = true) := by
  have kind {measure : Number} (measured : f.Measures v measure) :
      f.type = .number ∨ f.type.isTextual = true := by
    cases measured with
    | number type _ => exact .inl type
    | length textual => exact .inr textual
  cases broken with
  | number given limited type _ =>
      refine ⟨_, given, ?_, .inl type⟩
      simpa [FieldRules.hasLimits, Option.isSome_iff_ne_none] using limited
  | min given set measured _ => exact ⟨_, given, by simp [FieldRules.hasLimits, set], kind measured⟩
  | max given set measured _ => exact ⟨_, given, by simp [FieldRules.hasLimits, set], kind measured⟩
  | pattern => simp at limit
  | options => simp at limit

/-- The report on the limits of a field for numbers. -/
theorem rangeViolations_of_number (given : f.rules = some rules) (limits : rules.hasLimits = true)
    (type : f.type = .number) (present : v.isPresent = true) :
    f.rangeViolations v = .ok (f.reportOn v [.number, .min, .max]) := by
  have words : f.measured = "value" := by rw [measured, if_pos type]
  cases read : v.number? with
  | none =>
      have limited : rules.min ≠ none ∨ rules.max ≠ none := by
        simpa [FieldRules.hasLimits, Option.isSome_iff_ne_none] using limits
      have broken : f.Breaks v .number :=
        .number given limited type ((number?_eq_none_iff present).mp read)
      have unmeasured (n : Number) : ¬ f.Measures v n := by
        intro measured
        cases measured with
        | number _ again => simp [read] at again
        | length textual => simp [type, FieldType.isTextual] at textual
      have others : f.reportOn v [.min, .max] = [] := by
        apply reportOn_eq_nil
        intro rule mem broken
        cases broken with
        | min _ _ measured _ => exact unmeasured _ measured
        | max _ _ measured _ => exact unmeasured _ measured
        | _ => simp at mem
      rw [reportOn_cons_of_breaks _ broken, others]
      simp [rangeViolations, given, limits, type, read, complaint]
  | some n =>
      have kept : ¬ f.Breaks v .number := by
        intro broken
        cases broken with
        | number _ _ _ noNumber =>
            simp [(number?_eq_none_iff present).mpr noNumber] at read
      rw [reportOn_cons_of_not_breaks _ kept, ← limitViolations_eq given (.number type read), words]
      simp [rangeViolations, given, limits, type, read]

/-- The report on the limits of a field for texts. -/
theorem rangeViolations_of_isTextual (given : f.rules = some rules)
    (limits : rules.hasLimits = true) (textual : f.type.isTextual = true)
    (has : v.hasText .lengthCheck = true) :
    f.rangeViolations v = .ok (f.reportOn v [.number, .min, .max]) := by
  have type : f.type ≠ .number := by
    intro type
    simp [type, FieldType.isTextual] at textual
  have words : f.measured = "length" := by rw [measured, if_neg type]
  have kept : ¬ f.Breaks v .number := by
    intro broken
    cases broken with
    | number _ _ number _ => exact type number
  rw [reportOn_cons_of_not_breaks _ kept, ← limitViolations_eq given (.length textual), words]
  simp [rangeViolations, given, limits, type, textual, Value.display_of_hasText has, Except.map]

/-- The check of the limits reports on them. -/
theorem rangeViolations_eq (present : v.isPresent = true)
    (has : f.limitsLength = true → v.hasText .lengthCheck = true) :
    f.rangeViolations v = .ok (f.reportOn v [.number, .min, .max]) := by
  by_cases limited : ∃ rules, f.rules = some rules ∧ rules.hasLimits = true ∧
      (f.type = .number ∨ f.type.isTextual = true)
  · obtain ⟨rules, given, limits, number | textual⟩ := limited
    · exact rangeViolations_of_number given limits number present
    · apply rangeViolations_of_isTextual given limits textual
      exact has (by simp [limitsLength, given, limits, textual])
  · rw [reportOn_eq_nil fun rule mem broken => limited (exists_limits_of_breaks broken mem)]
    unfold rangeViolations
    cases given : f.rules with
    | none => rfl
    | some rules =>
        by_cases limits : rules.hasLimits = true
        · have neither : f.type ≠ .number ∧ ¬ f.type.isTextual = true :=
            not_or.mp fun kind => limited ⟨rules, given, limits, kind⟩
          simp [limits, neither]
        · simp [limits]

/-- The pattern of a field, if it sets one, is a pattern or a text that is none. -/
def ReadsPattern (f : Field) : Prop := ∀ text ∈ f.patternText?, ¬ (Pattern.read text).IsRefused

instance (f : Field) : Decidable f.ReadsPattern :=
  inferInstanceAs (Decidable (∀ text ∈ f.patternText?, ¬ (Pattern.read text).IsRefused))

/-- The pattern of a field is one, but the match of it on a value is refused. A value that is
not present is not matched at all. -/
def RefusesMatch (f : Field) (v : Value) : Prop :=
  v.isPresent = true ∧ ∃ text pattern refusal, f.patternText? = some text ∧
    Pattern.read text = .pattern pattern ∧ pattern.matchesWhole v.displayText = .error refusal

/-- A match is refused for one reason only. -/
theorem eq_spanReversed_of_matchesWhole {pattern : Pattern.Expression} {text : String}
    {refusal : Pattern.Refusal} (refused : pattern.matchesWhole text = .error refusal) :
    refusal = .spanReversed := by
  unfold Pattern.Expression.matchesWhole at refused
  split at refused
  · cases refused
  · split at refused
    · exact (Except.error.inj refused).symm
    · cases refused

theorem breaks_pattern_iff :
    f.Breaks v .pattern ↔ ∃ text pattern, f.patternText? = some text ∧
      Pattern.read text = .pattern pattern ∧ pattern.matchesWhole v.displayText = .ok false := by
  constructor
  · intro broken
    cases broken with
    | pattern set reads differs => exact ⟨_, _, set, reads, differs⟩
  · intro found
    obtain ⟨text, pattern, set, reads, differs⟩ := found
    exact .pattern set reads differs

/-- The check of the pattern reports on it, unless the match of it is refused. -/
theorem result_patternViolations (present : v.isPresent = true) (showable : v.isShowable = true)
    (room : f.HasRoom v) (reads : f.ReadsPattern) :
    (f.patternViolations v).result =
      if f.RefusesMatch v then .error (.patternRefused .spanReversed)
      else .ok (f.reportOn v [.pattern]) := by
  rw [patternViolations_eq]
  cases set : f.patternText? with
  | none => simp [RefusesMatch, reportOn, breaks_pattern_iff, set]
  | some text =>
      obtain ⟨allowed, shown⟩ := (room present).2.1 text set
      cases read : Pattern.read text with
      | refused refusal => exact absurd ⟨refusal, read⟩ (reads text set)
      | noPattern =>
          simp [RefusesMatch, reportOn, breaks_pattern_iff, set, read, allowed, Except.map]
      | pattern pattern =>
          have has : v.hasText .patternCheck = true :=
            (Value.hasText_of_isShowable showable).trans (shown pattern read)
          simp only [read, allowed, Bool.not_true, Bool.false_eq_true, if_false,
            Traced.result_ofExcept, Value.display_of_hasText has, Except.bind]
          cases whole : pattern.matchesWhole v.displayText with
          | error refusal =>
              obtain rfl := eq_spanReversed_of_matchesWhole whole
              simp [matchViolations, RefusesMatch, set, read, whole, present]
          | ok matched =>
              cases matched <;>
                simp [matchViolations, RefusesMatch, reportOn, breaks_pattern_iff, complaint, set,
                  read, whole]

omit [Machine] in
theorem mem_unknownChoices {shown : String} :
    shown ∈ f.unknownChoices v ↔
      (∃ choice ∈ choicesOf v, choice.displayText = shown) ∧
        ∀ option ∈ f.options.getD [], option.value ≠ shown := by
  simp [unknownChoices]

theorem breaks_options_iff :
    f.Breaks v .options ↔ f.limitsChoice = true ∧ f.unknownChoices v ≠ [] := by
  have limits : f.limitsChoice = true ↔ f.type.isChoice = true ∧ f.options.getD [] ≠ [] := by
    simp [limitsChoice, and_comm]
  rw [limits]
  constructor
  · intro broken
    cases broken with
    | options type offers chosen unknown =>
        exact ⟨⟨type, offers⟩,
          List.ne_nil_of_mem (mem_unknownChoices.mpr ⟨⟨_, chosen, rfl⟩, unknown⟩)⟩
  · intro limited
    obtain ⟨⟨type, offers⟩, missed⟩ := limited
    obtain ⟨shown, mem⟩ := List.exists_mem_of_ne_nil _ missed
    obtain ⟨⟨choice, chosen, rfl⟩, unknown⟩ := mem_unknownChoices.mp mem
    exact .options type offers chosen unknown

/-- The choices of a value have the texts that it shows. -/
theorem mapM_display_choicesOf
    (has : ∀ choice ∈ choicesOf v, choice.hasText .optionCheck = true) :
    (choicesOf v).mapM (Value.display · .optionCheck) =
      .ok ((choicesOf v).map Value.displayText) := by
  have each : ∀ choice ∈ choicesOf v,
      choice.display .optionCheck = pure choice.displayText := by
    intro choice mem
    rw [Value.display_of_hasText (has choice mem)]
    rfl
  rw [mapM_except_congr each, List.mapM_pure]
  rfl

/-- The check of the options reports on them. -/
theorem optionViolations_eq
    (has : f.limitsChoice = true → ∀ choice ∈ choicesOf v, choice.hasText .optionCheck = true) :
    f.optionViolations v = .ok (f.reportOn v [.options]) := by
  rw [optionViolations, isEmpty_or_not_isChoice]
  by_cases limits : f.limitsChoice = true
  · rw [mapM_display_choicesOf (has limits)]
    have listed : (((choicesOf v).map Value.displayText).filter fun shown =>
        !((f.options.getD []).map FieldOption.value).contains shown) = f.unknownChoices v := rfl
    simp only [limits, Bool.not_true, Bool.false_eq_true, if_false, Except.map, listed]
    by_cases known : f.unknownChoices v = []
    · simp [reportOn, breaks_options_iff, known]
    · simp [reportOn, breaks_options_iff, known, limits, complaint]
  · simp [limits, reportOn, breaks_options_iff]

/-- The check of a field reports on its value, unless the match of its pattern is refused. -/
theorem result_violations {data : Record} (showable : (data.value f.key).isShowable = true)
    (room : f.HasRoom (data.value f.key)) (reads : f.ReadsPattern) :
    (f.violations data).result =
      if f.RefusesMatch (data.value f.key) then .error (.patternRefused .spanReversed)
      else .ok (f.report (data.value f.key)) := by
  by_cases present : (data.value f.key).isPresent = true
  · have whole : f.report (data.value f.key) =
        f.reportOn (data.value f.key) [.number, .min, .max] ++
          f.reportOn (data.value f.key) [.pattern] ++ f.reportOn (data.value f.key) [.options] := by
      rw [report, if_pos present, ← reportOn_append, ← reportOn_append]
      rfl
    have length : f.limitsLength = true → (data.value f.key).hasText .lengthCheck = true := by
      intro limited
      exact (Value.hasText_of_isShowable showable).trans ((room present).1 limited)
    have choices : f.limitsChoice = true →
        ∀ choice ∈ choicesOf (data.value f.key), choice.hasText .optionCheck = true := by
      intro limited choice mem
      rw [Value.hasText_of_isShowable (isShowable_iff_choicesOf.mp showable choice mem)]
      exact (room present).2.2 limited choice mem
    simp only [violations, present, if_true, rangeViolations_eq present length,
      optionViolations_eq choices, Traced.ofExcept_ok, pure_bind, Traced.result_bind,
      result_patternViolations present showable room reads, Traced.result_pure]
    by_cases refused : f.RefusesMatch (data.value f.key)
    · simp only [refused, if_true, Except.bind]
    · simp only [refused, if_false, Except.bind, whole]
  · have ends : ¬ f.RefusesMatch (data.value f.key) := fun refused => present refused.1
    rw [if_neg ends, report, if_neg present]
    simp [violations, present]

end Field

/-- The check of a record whose integers have texts, against fields whose patterns are patterns
or none, reports field by field the rules that are broken, on any machine that gets by with the
calls that it takes. It fails only if a match is refused. -/
theorem result_brokenRules [Machine] {data : Record} {fields : List Field}
    (showable : data.IsShowable) (room : ∀ f ∈ fields, f.HasRoom (data.value f.key))
    (reads : ∀ f ∈ fields, f.ReadsPattern) :
    (brokenRules data fields).result =
      if ∃ f ∈ fields, f.RefusesMatch (data.value f.key)
      then .error (.patternRefused .spanReversed)
      else .ok (fields.flatMap fun f => f.report (data.value f.key)) := by
  induction fields with
  | nil => simp [brokenRules]
  | cons f rest ih =>
      rw [List.forall_mem_cons] at room reads
      rw [brokenRules, Traced.result_bind,
        Field.result_violations (showable.value f.key) room.1 reads.1]
      by_cases refused : f.RefusesMatch (data.value f.key)
      · simp [refused, Except.bind]
      · rw [if_neg refused]
        simp only [Except.bind, Traced.result_bind, ih room.2 reads.2]
        by_cases later : ∃ g ∈ rest, g.RefusesMatch (data.value g.key) <;> simp [refused, later]

/-- A number between limits that are crossed misses both of them, and a text breaks its
pattern: three violations, in the order of the fields and of the rules. -/
theorem result_brokenRules_crossed :
    let age : Field :=
      { id := "a", key := "age", label := "Age", type := .number,
        rules := some { min := some (Binary64.ofInt 9), max := some (Binary64.ofInt 3) } }
    let code : Field :=
      { id := "c", key := "code", label := "Code", rules := some { pattern := some "[A-Z]+" } }
    let data : Record := ⟨[("age", .text "5"), ("code", .text "ab")]⟩
    data.IsShowable ∧ (∀ f ∈ [age, code], f.HasRoom (data.value f.key)) ∧
      (∀ f ∈ [age, code], f.ReadsPattern) ∧
      ([age, code].flatMap fun f => f.report (data.value f.key)) =
        [⟨"age", .min, "Age value must be at least 9"⟩,
         ⟨"age", .max, "Age value must be at most 3"⟩,
         ⟨"code", .pattern, "Code has an invalid format"⟩] := by
  intro age code data
  have showable : data.IsShowable := by decide +kernel
  have room : ∀ f ∈ [age, code], f.HasRoom (data.value f.key) := fun _ _ => Field.hasRoom_standard
  have reads : ∀ f ∈ [age, code], f.ReadsPattern := by decide +kernel
  refine ⟨showable, room, reads, ?_⟩
  have found : (brokenRules data [age, code]).result =
      .ok [⟨"age", .min, "Age value must be at least 9"⟩,
           ⟨"age", .max, "Age value must be at most 3"⟩,
           ⟨"code", .pattern, "Code has an invalid format"⟩] := by decide +kernel
  have reported := result_brokenRules showable room reads
  rw [found] at reported
  split at reported
  · cases reported
  · exact (Except.ok.inj reported).symm

/-- A pattern, and a value that can be shown: the match is refused, wherever a repetition goes on
after a run that failed, so that the check of the record fails and nothing is reported. -/
theorem brokenRules_fails_on_reversed_span :
    let field : Field :=
      { id := "f", key := "k", label := "L", rules := some { pattern := some "(?:(a)|b)*+" } }
    let data : Record := ⟨[("k", .text "abb")]⟩
    data.IsShowable ∧ field.ReadsPattern ∧ ∀ keepsCursor : Bool,
      (@brokenRules { Machine.standard with keepsCursor } data [field]).result =
        .error (.patternRefused .spanReversed) := by
  decide +kernel

end Stencil
