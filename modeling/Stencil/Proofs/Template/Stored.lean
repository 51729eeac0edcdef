/-
# The JSON value of a stored template

A template is stored as the text of a JSON value: its document, with null in the place of every
number that is not finite. No name stands twice in an object of a document, so that value has
the names of the document in their order, and the text is read as that value unless an integer
in it is too long.
-/

import Stencil.Proofs.Json.Strict
import Stencil.Proofs.Template.RoundTrip

namespace Stencil

open Schema
open Json (storedValue storedStyle storedStyle_readsAs readText_print printAt shortestText_stored)

namespace Value

/-- No name stands twice in an object of the value. -/
inductive HasDistinctNames : Value → Prop
  | null : HasDistinctNames .null
  | bool (b : Bool) : HasDistinctNames (.bool b)
  | int (i : Int) : HasDistinctNames (.int i)
  | float (x : Binary64) : HasDistinctNames (.float x)
  | text (s : String) : HasDistinctNames (.text s)
  | list {items : List Value} (each : ∀ v ∈ items, HasDistinctNames v) :
      HasDistinctNames (.list items)
  | object {entries : List (String × Value)} (distinct : (entries.map Prod.fst).Nodup)
      (each : ∀ entry ∈ entries, HasDistinctNames entry.2) : HasDistinctNames (.object entries)

variable {v : Value} {entries : List (String × Value)}

/-- Entries with distinct names are read one by one. -/
theorem reread_object (number : Binary64 → Value) (distinct : (entries.map Prod.fst).Nodup) :
    (Value.object entries).reread number =
      .object (entries.map fun entry => (entry.1, entry.2.reread number)) := by
  have names : ((entries.map fun entry => (entry.1, entry.2.reread number)).map Prod.fst).Nodup := by
    rw [List.map_map]
    exact distinct
  rw [reread, rereadEntries_eq_map, Record.entries_ofEntries names]

/-- A value is stored as the text of the value that it is read as. -/
theorem HasDistinctNames.printAt_reread (h : v.HasDistinctNames) (indent : Option Nat)
    (depth : Nat) :
    printAt (storedStyle indent) depth (v.reread storedValue) =
      printAt (storedStyle indent) depth v := by
  induction h generalizing depth with
  | float x =>
      by_cases finite : x.isFinite = true
      · rw [reread, storedValue, if_pos finite]
      · rw [reread, storedValue, if_neg finite]
        exact (shortestText_stored finite).symm
  | @list items each ih =>
      rw [reread, rereadItems_eq_map]
      cases items with
      | nil => rfl
      | cons first rest =>
          rw [List.forall_mem_cons] at ih
          have others : Json.printItems (storedStyle indent) (depth + 1)
              (rest.map (reread storedValue)) = Json.printItems (storedStyle indent) (depth + 1) rest := by
            rw [Json.printItems_eq_flatMap, Json.printItems_eq_flatMap, List.map_map]
            congr 1
            exact List.map_congr_left fun v mem => congrArg _ (ih.2 v mem (depth + 1))
          rw [List.map_cons, printAt, printAt, ih.1 (depth + 1), others]
  | @object entries distinct each ih =>
      rw [reread_object storedValue distinct]
      cases entries with
      | nil => rfl
      | cons entry rest =>
          rw [List.forall_mem_cons] at ih
          have others : Json.printEntries (storedStyle indent) (depth + 1)
              (rest.map fun entry => (entry.1, entry.2.reread storedValue)) =
                Json.printEntries (storedStyle indent) (depth + 1) rest := by
            rw [Json.printEntries_eq_flatMap, Json.printEntries_eq_flatMap, List.map_map]
            congr 1
            exact List.map_congr_left fun entry mem => congrArg _ (ih.2 entry mem (depth + 1))
          rw [List.map_cons, printAt, printAt, ih.1 (depth + 1), others]
  | _ => rfl

/-- The numbers that are read where a value was stored are finite. -/
theorem HasDistinctNames.isFinite_reread (h : v.HasDistinctNames) :
    (v.reread storedValue).IsFinite := by
  induction h with
  | float x =>
      by_cases finite : x.isFinite = true
      · simp [reread, storedValue, finite]
      · rw [reread, storedValue, if_neg finite]
        exact List.forall_mem_nil _
  | list each ih =>
      rw [reread, rereadItems_eq_map, isFinite_list, List.forall_mem_map]
      exact ih
  | object distinct each ih =>
      rw [reread_object storedValue distinct, isFinite_object, List.forall_mem_map]
      exact ih
  | _ => exact List.forall_mem_nil _

/-- The names of an object of attributes are distinct if they are in the attributes and in what
is present of them. -/
theorem hasDistinctNames_presentEntries {attributes : List (String × Option Value)}
    (distinct : (attributes.map Prod.fst).Nodup)
    (each : ∀ pair ∈ attributes, ∀ v ∈ pair.2, v.HasDistinctNames) :
    (Value.object (presentEntries attributes)).HasDistinctNames :=
  .object ((map_fst_presentEntries_sublist attributes).nodup distinct)
    (forall_mem_presentEntries.mpr each)

theorem hasDistinctNames_list_map {α : Type} {toValue : α → Value}
    (each : ∀ x, (toValue x).HasDistinctNames) (xs : List α) :
    (Value.list (xs.map toValue)).HasDistinctNames :=
  .list (List.forall_mem_map.mpr fun x _ => each x)

/-- An attribute that may be absent brings a document of distinct names if it is there. -/
theorem hasDistinctNames_of_mem_map {α : Type} {toValue : α → Value}
    (each : ∀ x, (toValue x).HasDistinctNames) (x? : Option α) :
    ∀ v ∈ x?.map toValue, v.HasDistinctNames := by
  intro v mem
  obtain ⟨x, -, rfl⟩ := Option.map_eq_some_iff.mp mem
  exact each x

end Value

open Value (hasDistinctNames_presentEntries hasDistinctNames_list_map hasDistinctNames_of_mem_map)

theorem Scalar.hasDistinctNames (scalar : Scalar) : scalar.toValue.HasDistinctNames := by
  cases scalar with
  | text s => exact .text s
  | int i => exact .int i
  | float x => exact .float x
  | bool b => exact .bool b

theorem FieldOption.hasDistinctNames (o : FieldOption) : o.toValue.HasDistinctNames := by
  refine .object (by simp) ?_
  simp only [List.forall_mem_cons]
  exact ⟨.text _, .text _, List.forall_mem_nil _⟩

theorem FieldRules.hasDistinctNames (r : FieldRules) : r.toValue.HasDistinctNames := by
  refine hasDistinctNames_presentEntries (by simp) ?_
  simp only [List.forall_mem_cons]
  exact ⟨hasDistinctNames_of_mem_map .float _, hasDistinctNames_of_mem_map .float _,
    hasDistinctNames_of_mem_map .text _, hasDistinctNames_of_mem_map .text _,
    List.forall_mem_nil _⟩

theorem Field.hasDistinctNames (f : Field) : f.toValue.HasDistinctNames := by
  refine hasDistinctNames_presentEntries (by simp) ?_
  simp only [List.forall_mem_cons, Option.mem_some_iff, forall_eq']
  exact ⟨.text _, .text _, .text _, .text _, .bool _,
    hasDistinctNames_of_mem_map Scalar.hasDistinctNames _, hasDistinctNames_of_mem_map .text _,
    hasDistinctNames_of_mem_map (hasDistinctNames_list_map FieldOption.hasDistinctNames) _,
    hasDistinctNames_of_mem_map FieldRules.hasDistinctNames _, List.forall_mem_nil _⟩

theorem Column.hasDistinctNames (c : Column) : c.toValue.HasDistinctNames := by
  refine hasDistinctNames_presentEntries (by simp) ?_
  simp only [List.forall_mem_cons, Option.mem_some_iff, forall_eq']
  exact ⟨.text _, .text _, .text _, .text _, hasDistinctNames_of_mem_map .text _,
    List.forall_mem_nil _⟩

theorem StyleOverride.hasDistinctNames (s : StyleOverride) : s.toValue.HasDistinctNames := by
  refine hasDistinctNames_presentEntries (by simp) ?_
  simp only [List.forall_mem_cons]
  exact ⟨hasDistinctNames_of_mem_map .float _, hasDistinctNames_of_mem_map .text _,
    hasDistinctNames_of_mem_map .text _, hasDistinctNames_of_mem_map .float _,
    hasDistinctNames_of_mem_map .float _, List.forall_mem_nil _⟩

theorem Condition.hasDistinctNames (c : Condition) : c.toValue.HasDistinctNames := by
  refine hasDistinctNames_presentEntries (by simp) ?_
  simp only [List.forall_mem_cons]
  exact ⟨hasDistinctNames_of_mem_map .text _, hasDistinctNames_of_mem_map .text _,
    List.forall_mem_nil _⟩

theorem TemplateSection.hasDistinctNames (s : TemplateSection) : s.toValue.HasDistinctNames := by
  refine hasDistinctNames_presentEntries (by simp) ?_
  simp only [List.forall_mem_cons, Option.mem_some_iff, forall_eq']
  exact ⟨.text _, .text _, hasDistinctNames_of_mem_map .text _, hasDistinctNames_of_mem_map .text _,
    hasDistinctNames_of_mem_map (hasDistinctNames_list_map Field.hasDistinctNames) _,
    hasDistinctNames_of_mem_map (hasDistinctNames_list_map Column.hasDistinctNames) _,
    hasDistinctNames_of_mem_map StyleOverride.hasDistinctNames _,
    hasDistinctNames_of_mem_map Condition.hasDistinctNames _, List.forall_mem_nil _⟩

theorem Metadata.hasDistinctNames (m : Metadata) : m.toValue.HasDistinctNames := by
  refine hasDistinctNames_presentEntries (by simp) ?_
  simp only [List.forall_mem_cons]
  exact ⟨hasDistinctNames_of_mem_map .text _,
    hasDistinctNames_of_mem_map (hasDistinctNames_list_map .text) _, List.forall_mem_nil _⟩

namespace Template

theorem hasDistinctNames (t : Template) : t.toValue.HasDistinctNames := by
  refine hasDistinctNames_presentEntries (by simp) ?_
  simp only [List.forall_mem_cons, Option.mem_some_iff, forall_eq']
  exact ⟨.text _, .text _, .text _, hasDistinctNames_of_mem_map .text _,
    hasDistinctNames_of_mem_map .text _, hasDistinctNames_of_mem_map .text _,
    hasDistinctNames_of_mem_map .text _,
    hasDistinctNames_list_map TemplateSection.hasDistinctNames _,
    hasDistinctNames_list_map Field.hasDistinctNames _,
    hasDistinctNames_of_mem_map Metadata.hasDistinctNames _, List.forall_mem_nil _⟩

/-- The JSON value of a stored template: its document with null for every number that is not
finite. -/
def stored (t : Template) : Value := t.toValue.reread storedValue

variable {t : Template}

/-- The text of a stored template is the text of its JSON value. -/
theorem print_stored (t : Template) (indent : Option Nat) :
    Json.print (storedStyle indent) t.stored = t.dump indent :=
  congrArg String.ofList (t.hasDistinctNames.printAt_reread indent 0)

theorem isFinite_stored (t : Template) : t.stored.IsFinite := t.hasDistinctNames.isFinite_reread

/-- The text of a stored template is read as its JSON value if every integer can be shown. -/
theorem readText_dump (shown : ∀ i ∈ t.integers, Value.isShowableInt i = true)
    (indent : Option Nat) : Json.readText (t.dump indent) = .ok t.stored := by
  have showable : t.toValue.isShowable = true := by
    rw [isShowable_toValue, List.all_eq_true]
    exact shown
  exact readText_print (storedStyle_readsAs indent) showable

end Template

end Stencil
