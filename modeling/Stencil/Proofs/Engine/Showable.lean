/-
# Making documents of data that can be shown

A record whose integers can be shown stays one when defaults are filled in that can be shown.
All that is read of it has a text then where there is room for the calls that this takes, so no
document is made only for want of room, or for a pattern that is refused.
-/

import Stencil.Proofs.Engine.Generation
import Stencil.Proofs.Field.Checkable
import Stencil.Proofs.Template.FinitePart

namespace Stencil

theorem Scalar.isShowable_toValue {scalar : Scalar}
    (shown : ∀ i ∈ scalar.integers, Value.isShowableInt i = true) :
    scalar.toValue.isShowable = true := by
  cases scalar with
  | int i => exact shown i (List.mem_singleton_self i)
  | _ => rfl

namespace Record

variable {record : Record} {f : Field} {fields : List Field}

theorem IsShowable.fill (h : record.IsShowable)
    (shown : ∀ i ∈ f.integers, Value.isShowableInt i = true) : (record.fill f).IsShowable := by
  unfold Record.fill
  split
  · exact h
  · rename_i scalar given
    split
    · apply h.insert
      apply Scalar.isShowable_toValue
      intro i inside
      exact shown i (by simpa [Field.integers, given] using inside)
    · exact h

/-- Filling in defaults that can be shown keeps a record showable. -/
theorem IsShowable.withDefaults (h : record.IsShowable)
    (shown : ∀ f ∈ fields, ∀ i ∈ f.integers, Value.isShowableInt i = true) :
    (record.withDefaults fields).IsShowable := by
  induction fields generalizing record with
  | nil => exact h
  | cons f rest ih =>
      rw [List.forall_mem_cons] at shown
      exact ih (h.fill shown.1) shown.2

end Record

/-- The pattern of a field, if it sets one, is not refused on a value that is present, neither
by the reader of patterns nor by the match. -/
def Field.TakesPattern [Machine] (f : Field) (v : Value) : Prop :=
  v.isPresent = true → ∀ text, f.patternText? = some text →
    match Pattern.read text with
    | .refused _ => False
    | .noPattern => True
    | .pattern pattern => ∀ refusal, pattern.matchesWhole v.displayText ≠ .error refusal

/-- A value that can be shown can be checked if there is room for the check, unless the pattern
is refused. -/
theorem Field.isCheckable_iff_of_isShowable [Machine] {f : Field} {v : Value}
    (showable : v.isShowable = true) :
    f.IsCheckable v ↔ f.HasRoom v ∧ f.TakesPattern v := by
  have ends (text : String) : PatternEnds text v ↔
      (Machine.allows (.pattern text) = true ∧
        ∀ pattern, Pattern.read text = .pattern pattern →
          Machine.allows (.showing .patternCheck v) = true) ∧
      match Pattern.read text with
      | .refused _ => False
      | .noPattern => True
      | .pattern pattern => ∀ refusal, pattern.matchesWhole v.displayText ≠ .error refusal := by
    rw [PatternEnds, Value.hasText_of_isShowable showable]
    cases Pattern.read text <;> simp [and_assoc]
  have choices : (∀ choice ∈ choicesOf v, choice.hasText .optionCheck = true) ↔
      ∀ choice ∈ choicesOf v, Machine.allows (.showing .optionCheck choice) = true := by
    apply forall₂_congr
    intro choice mem
    rw [Value.hasText_of_isShowable (isShowable_iff_choicesOf.mp showable choice mem)]
  simp only [IsCheckable, HasRoom, TakesPattern, Value.hasText_of_isShowable showable, choices,
    ends, ← imp_and]
  apply imp_congr_right
  intro _
  constructor
  · rintro ⟨length, pattern, choice⟩
    exact ⟨⟨length, fun text set => (pattern text set).1, choice⟩,
      fun text set => (pattern text set).2⟩
  · rintro ⟨⟨length, room, choice⟩, pattern⟩
    exact ⟨length, fun text set => ⟨room text set, pattern text set⟩, choice⟩

namespace Engine

variable {e : Engine} {t : Template} {record : Record}

/-- The prepared record is showable if the record and the integers of the template are. -/
theorem isShowable_prepare (showable : record.IsShowable)
    (shown : ∀ i ∈ t.integers, Value.isShowableInt i = true) : (e.prepare t record).IsShowable := by
  unfold prepare
  split
  · apply showable.withDefaults
    intro f mem i inside
    exact shown i (List.mem_flatMap.mpr ⟨f, mem, inside⟩)
  · exact showable

/-- A document is made of data that can be shown exactly when there is room for all checks and
for all that the sections show, and no pattern of the fields that are found is refused. -/
theorem hasResult_generate [Machine] (showable : record.IsShowable)
    (shown : ∀ i ∈ t.integers, Value.isShowableInt i = true) :
    HasResult (e.generate t (.object record.entries)).result ↔
      (∀ f ∈ t.discovery.fields, f.HasRoom ((e.prepare t record).value f.key)) ∧
      (∀ f ∈ t.discovery.fields, f.TakesPattern ((e.prepare t record).value f.key)) ∧
      ∀ s ∈ t.sections, ∀ shown ∈ e.renderer.item.registry.shownValues s (e.prepare t record),
        Machine.allows (.showing shown.1 shown.2) = true := by
  have prepared : (e.prepare t record).IsShowable := isShowable_prepare showable shown
  have checks : (∀ f ∈ t.discovery.fields, f.IsCheckable ((e.prepare t record).value f.key)) ↔
      ∀ f ∈ t.discovery.fields, f.HasRoom ((e.prepare t record).value f.key) ∧
        f.TakesPattern ((e.prepare t record).value f.key) :=
    forall₂_congr fun f _ => Field.isCheckable_iff_of_isShowable (prepared.value f.key)
  have sections : (∀ s ∈ t.sections,
      ∀ shown ∈ e.renderer.item.registry.shownValues s (e.prepare t record),
        shown.2.hasText shown.1 = true) ↔
      ∀ s ∈ t.sections, ∀ shown ∈ e.renderer.item.registry.shownValues s (e.prepare t record),
        Machine.allows (.showing shown.1 shown.2) = true := by
    apply forall₄_congr
    intro s _ shown mem
    rw [Value.hasText_of_isShowable
      (e.renderer.item.registry.isShowable_of_mem_shownValues prepared mem)]
  rw [hasResult_generate_iff, hasResult_brokenRules, Render.Registry.hasResult_render, checks,
    sections, forall₂_and, and_assoc]

end Engine

end Stencil
