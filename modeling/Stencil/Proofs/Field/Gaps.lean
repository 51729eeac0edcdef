/-
# Filling gaps

Filling in the defaults of fields fills the gaps of a record and does nothing else. A gap is a
key that is missing or null, and it is filled by the first field of the list that has its key
and a default at all. Since only the order of the fields of one key counts, fields of different
keys may change places. Doing it twice does no more than doing it once, and two lists of fields
may be taken one after the other.
-/

import Stencil.Proofs.Field.Defaults

namespace Stencil

/-- A list of fields in another order, in which the fields of each key come in the same order
as before: only fields of different keys have changed places. -/
inductive Reordered : List Field → List Field → Prop
  | nil : Reordered [] []
  | cons (f : Field) {fields others : List Field} (rest : Reordered fields others) :
      Reordered (f :: fields) (f :: others)
  | swap {f g : Field} (apart : f.key ≠ g.key) (fields : List Field) :
      Reordered (f :: g :: fields) (g :: f :: fields)
  | trans {first second third : List Field} (one : Reordered first second)
      (other : Reordered second third) : Reordered first third

variable {fields others : List Field} {key : String}

/-- Two fields of different keys do not both have a default for one key. -/
theorem supplier?_swap {f g : Field} (apart : f.key ≠ g.key) :
    supplier? (f :: g :: fields) key = supplier? (g :: f :: fields) key := by
  have either : f.supplies key = false ∨ g.supplies key = false := by
    by_cases same : f.key = key
    · exact .inr (by simp [Field.supplies, ← same, apart.symm])
    · exact .inl (by simp [Field.supplies, same])
  cases either with
  | inl unsupplied => simp [supplier?, List.find?_cons, unsupplied]
  | inr unsupplied => simp [supplier?, List.find?_cons, unsupplied]

/-- Which field supplies a key does not depend on the order of fields with different keys. -/
theorem Reordered.supplier?_eq (reordered : Reordered fields others) :
    supplier? fields key = supplier? others key := by
  induction reordered with
  | nil => rfl
  | cons f rest ih =>
      simp only [supplier?, List.find?_cons] at ih ⊢
      rw [ih]
  | swap apart fields => exact supplier?_swap apart
  | trans one other ih ih' => exact ih.trans ih'

namespace Record

variable {record : Record}

/-- The value of a key is its default where it was null, and stays elsewhere. -/
theorem value_withDefaults (record : Record) (fields : List Field) (key : String) :
    (record.withDefaults fields).value key =
      if (record.value key).isNull = true then
        (defaultFor? fields key).elim .null Scalar.toValue
      else record.value key := by
  rw [value, get?_withDefaults]
  by_cases gap : (record.value key).isNull = true
  · rw [if_pos gap, if_pos gap]
    cases defaultFor? fields key with
    | some scalar => rfl
    | none => exact Value.isNull_iff.mp gap
  · rw [if_neg gap, if_neg gap, ← value]

/-- A key that is not null is there. -/
theorem isSome_get?_of_not_isNull (filled : ¬ (record.value key).isNull = true) :
    (record.get? key).isSome = true := by
  cases found : record.get? key with
  | some v => rfl
  | none => exact absurd (by simp [value, found, Value.isNull]) filled

/-- The keys are those of the record and those that a field has a default for. -/
theorem isSome_get?_withDefaults :
    ((record.withDefaults fields).get? key).isSome = true ↔
      (record.get? key).isSome = true ∨ ∃ f ∈ fields, f.key = key ∧ f.defaultValue ≠ none := by
  rw [get?_withDefaults, ← isSome_defaultFor?_iff]
  by_cases gap : (record.value key).isNull = true
  · rw [if_pos gap, Option.isSome_or, Bool.or_eq_true, Option.isSome_map, or_comm]
  · simp [if_neg gap, isSome_get?_of_not_isNull gap]

theorem withDefaults_append (record : Record) (before after : List Field) :
    record.withDefaults (before ++ after) = (record.withDefaults before).withDefaults after :=
  List.foldl_append

/-- Fields of different keys may be filled in in any order. -/
theorem get?_withDefaults_of_reordered (reordered : Reordered fields others) :
    (record.withDefaults fields).get? key = (record.withDefaults others).get? key := by
  rw [get?_withDefaults, get?_withDefaults, defaultFor?, reordered.supplier?_eq, defaultFor?]

/-- Filling in defaults is exactly the filling of gaps. The keys afterwards are those of the
record and those that a field has a default for. A value that is not null stays, also one that
does not hold such as zero, false or the empty text; in place of null stands the default of the
first field that has the key and a default. Once filled in, defaults find nothing to fill, the
fields of two lists can be filled in one list after the other, and fields of different keys in
any order. -/
theorem withDefaults_fills_gaps (record : Record) (fields : List Field) :
    (∀ key, ((record.withDefaults fields).get? key).isSome = true ↔
      (record.get? key).isSome = true ∨ ∃ f ∈ fields, f.key = key ∧ f.defaultValue ≠ none) ∧
    (∀ key, (record.withDefaults fields).value key =
      if (record.value key).isNull = true then
        (defaultFor? fields key).elim .null Scalar.toValue
      else record.value key) ∧
    (record.withDefaults fields).withDefaults fields = record.withDefaults fields ∧
    (∀ before after, fields = before ++ after →
      record.withDefaults fields = (record.withDefaults before).withDefaults after) ∧
    ∀ others, Reordered fields others →
      ∀ key, (record.withDefaults fields).get? key = (record.withDefaults others).get? key := by
  refine ⟨fun key => isSome_get?_withDefaults, record.value_withDefaults fields,
    record.withDefaults_withDefaults fields, ?_, ?_⟩
  · intro before after split
    rw [split, withDefaults_append]
  · intro others reordered key
    exact get?_withDefaults_of_reordered reordered

/-- The tax is null and has two defaults, of which the first is zero; the empty note and the
payment that is false stay although they have defaults. The note may come first. -/
theorem withDefaults_fills_gaps_bill :
    let note : Field :=
      { id := "n", key := "note", label := "Note", defaultValue := some (.text "-") }
    let paid : Field :=
      { id := "p", key := "paid", label := "Paid", defaultValue := some (.bool true) }
    let tax : Field := { id := "t", key := "tax", label := "Tax", defaultValue := some (.int 0) }
    let late : Field := { tax with defaultValue := some (.int 5) }
    let bill : Record := ⟨[("tax", .null), ("paid", .bool false), ("note", .text "")]⟩
    let filled := bill.withDefaults [tax, note, late, paid]
    filled.value "tax" = .int 0 ∧ filled.value "paid" = .bool false ∧
      filled.value "note" = .text "" ∧
      filled.get? "tax" = (bill.withDefaults [note, tax, late, paid]).get? "tax" := by
  intro note paid tax late bill filled
  obtain ⟨-, values, -, -, reorders⟩ := bill.withDefaults_fills_gaps [tax, note, late, paid]
  have swapped : Reordered [tax, note, late, paid] [note, tax, late, paid] :=
    .swap (by decide) [late, paid]
  exact ⟨values "tax", values "paid", values "note", reorders _ swapped "tax"⟩

end Record

end Stencil
