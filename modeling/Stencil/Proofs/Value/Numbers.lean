/-
# The numbers in a value

A value may hold binary numbers at any depth. They are collected in the order in which they
are printed; integers, which are exact and always finite, are not among them.
-/

import Stencil.Template.Encode

namespace Stencil

/-- What holds of the entries of attributes holds of the values that the attributes have. -/
theorem forall_mem_presentEntries {attributes : List (String × Option Value)} {P : Value → Prop} :
    (∀ entry ∈ presentEntries attributes, P entry.2) ↔
      ∀ pair ∈ attributes, ∀ v ∈ pair.2, P v := by
  constructor
  · rintro holds ⟨name, _⟩ mem v ⟨rfl⟩
    exact holds (name, v) (List.mem_filterMap.mpr ⟨_, mem, rfl⟩)
  · intro holds entry mem
    obtain ⟨⟨name, v?⟩, inside, made⟩ := List.mem_filterMap.mp mem
    obtain ⟨v, rfl, rfl⟩ := Option.map_eq_some_iff.mp made
    exact holds _ inside v rfl

namespace Value

mutual

/-- The binary numbers in a value. -/
def numbers : Value → List Binary64
  | .float x => [x]
  | .list items => numbersOfItems items
  | .object entries => numbersOfEntries entries
  | _ => []

/-- The binary numbers in items. -/
def numbersOfItems : List Value → List Binary64
  | [] => []
  | v :: rest => numbers v ++ numbersOfItems rest

/-- The binary numbers in the values of entries. -/
def numbersOfEntries : List (String × Value) → List Binary64
  | [] => []
  | (_, v) :: rest => numbers v ++ numbersOfEntries rest

end

@[simp]
theorem numbers_list (items : List Value) : (Value.list items).numbers = items.flatMap numbers := by
  rw [numbers]
  induction items with
  | nil => rfl
  | cons v rest ih => rw [numbersOfItems, ih, List.flatMap_cons]

@[simp]
theorem numbers_object (entries : List (String × Value)) :
    (Value.object entries).numbers = entries.flatMap fun entry => entry.2.numbers := by
  rw [numbers]
  induction entries with
  | nil => rfl
  | cons entry rest ih => rw [numbersOfEntries, ih, List.flatMap_cons]

/-- Every binary number in the value is finite. -/
def IsFinite (v : Value) : Prop := ∀ x ∈ v.numbers, x.isFinite = true

@[simp]
theorem isFinite_bool (b : Bool) : (Value.bool b).IsFinite := List.forall_mem_nil _

@[simp]
theorem isFinite_int (i : Int) : (Value.int i).IsFinite := List.forall_mem_nil _

@[simp]
theorem isFinite_text (s : String) : (Value.text s).IsFinite := List.forall_mem_nil _

@[simp]
theorem isFinite_float {x : Binary64} : (Value.float x).IsFinite ↔ x.isFinite = true :=
  List.forall_mem_singleton

variable {items : List Value} {entries : List (String × Value)}

theorem isFinite_list : (Value.list items).IsFinite ↔ ∀ v ∈ items, v.IsFinite := by
  simp only [IsFinite, numbers_list, List.forall_mem_flatMap]

theorem isFinite_object : (Value.object entries).IsFinite ↔ ∀ entry ∈ entries, entry.2.IsFinite := by
  simp only [IsFinite, numbers_object, List.forall_mem_flatMap]

/-- The entries of attributes that have a value are finite if these values are. -/
theorem isFinite_object_presentEntries {attributes : List (String × Option Value)} :
    (Value.object (presentEntries attributes)).IsFinite ↔
      ∀ pair ∈ attributes, ∀ v ∈ pair.2, v.IsFinite :=
  isFinite_object.trans forall_mem_presentEntries

end Value

end Stencil
