/-
# The part of a template that can be stored

A template holds binary numbers as default values, as bounds and in styles, and integers
as default values. Its finite part leaves out every number that is not finite; it is the
template itself exactly when there is no such number. The document of a template shows no
integers but the default values.
-/

import Stencil.Proofs.Field.Checkable
import Stencil.Proofs.Schema.Attribute

namespace Stencil

/-- A number, if it is finite. -/
def Binary64.finite? (x : Binary64) : Option Binary64 := if x.isFinite then some x else none

theorem Binary64.finite?_eq_some_iff {x : Binary64} : x.finite? = some x ↔ x.isFinite = true := by
  by_cases finite : x.isFinite = true <;> simp [finite?, finite]

section Containers

variable {α : Type}

theorem option_bind_eq_self_iff {x? : Option α} {keep : α → Option α} :
    x?.bind keep = x? ↔ ∀ x ∈ x?.toList, keep x = some x := by
  cases x? <;> simp

theorem option_map_eq_self_iff {x? : Option α} {part : α → α} :
    x?.map part = x? ↔ ∀ x ∈ x?.toList, part x = x := by
  cases x? <;> simp

theorem list_map_eq_self_iff {xs : List α} {part : α → α} :
    xs.map part = xs ↔ ∀ x ∈ xs, part x = x := by
  induction xs with
  | nil => simp
  | cons x xs ih => simp [ih]

end Containers

/-- The numbers that a scalar holds. -/
def Scalar.numbers : Scalar → List Binary64
  | .float x => [x]
  | _ => []

/-- The integers that a scalar holds. -/
def Scalar.integers : Scalar → List Int
  | .int i => [i]
  | _ => []

/-- A scalar, unless it is a number that is not finite. -/
def Scalar.finite? : Scalar → Option Scalar
  | .float x => x.finite?.map .float
  | scalar => some scalar

theorem Scalar.finite?_eq_some_iff {scalar : Scalar} :
    scalar.finite? = some scalar ↔ ∀ x ∈ scalar.numbers, x.isFinite = true := by
  cases scalar with
  | float x => simp [finite?, numbers, Binary64.finite?_eq_some_iff]
  | _ => simp [finite?, numbers]

/-- The bounds of a field. -/
def FieldRules.numbers (r : FieldRules) : List Binary64 := r.min.toList ++ r.max.toList

/-- Constraints without bounds that are not finite. -/
def FieldRules.finitePart (r : FieldRules) : FieldRules :=
  { r with min := r.min.bind Binary64.finite?, max := r.max.bind Binary64.finite? }

theorem FieldRules.finitePart_eq_self_iff {r : FieldRules} :
    r.finitePart = r ↔ ∀ x ∈ r.numbers, x.isFinite = true := by
  obtain ⟨min, max, pattern, message⟩ := r
  simp only [finitePart, numbers, mk.injEq, and_true, option_bind_eq_self_iff,
    Binary64.finite?_eq_some_iff, List.forall_mem_append]

/-- The numbers that a field holds. -/
def Field.numbers (f : Field) : List Binary64 :=
  f.defaultValue.toList.flatMap Scalar.numbers ++ f.rules.toList.flatMap FieldRules.numbers

/-- The integers that a field holds. -/
def Field.integers (f : Field) : List Int := f.defaultValue.toList.flatMap Scalar.integers

/-- A field without numbers that are not finite. -/
def Field.finitePart (f : Field) : Field :=
  { f with
    defaultValue := f.defaultValue.bind Scalar.finite?
    rules := f.rules.map FieldRules.finitePart }

theorem Field.finitePart_eq_self_iff {f : Field} :
    f.finitePart = f ↔ ∀ x ∈ f.numbers, x.isFinite = true := by
  obtain ⟨id, key, label, type, isRequired, defaultValue, placeholder, options, rules⟩ := f
  simp only [finitePart, numbers, mk.injEq, true_and, option_bind_eq_self_iff,
    option_map_eq_self_iff, Scalar.finite?_eq_some_iff, FieldRules.finitePart_eq_self_iff,
    List.forall_mem_append, List.forall_mem_flatMap]

/-- The numbers of a style. -/
def StyleOverride.numbers (s : StyleOverride) : List Binary64 :=
  s.fontSize.toList ++ s.marginTop.toList ++ s.marginBottom.toList

/-- A style without numbers that are not finite. -/
def StyleOverride.finitePart (s : StyleOverride) : StyleOverride :=
  { s with
    fontSize := s.fontSize.bind Binary64.finite?
    marginTop := s.marginTop.bind Binary64.finite?
    marginBottom := s.marginBottom.bind Binary64.finite? }

theorem StyleOverride.finitePart_eq_self_iff {s : StyleOverride} :
    s.finitePart = s ↔ ∀ x ∈ s.numbers, x.isFinite = true := by
  obtain ⟨fontSize, fontWeight, textAlign, marginTop, marginBottom⟩ := s
  simp only [finitePart, numbers, mk.injEq, true_and, option_bind_eq_self_iff,
    Binary64.finite?_eq_some_iff, List.forall_mem_append, and_assoc]

/-- The numbers that a section holds. -/
def TemplateSection.numbers (s : TemplateSection) : List Binary64 :=
  s.declared.flatMap Field.numbers ++ s.style.toList.flatMap StyleOverride.numbers

/-- A section without numbers that are not finite. -/
def TemplateSection.finitePart (s : TemplateSection) : TemplateSection :=
  { s with
    fields := s.fields.map (List.map Field.finitePart)
    style := s.style.map StyleOverride.finitePart }

theorem TemplateSection.finitePart_eq_self_iff {s : TemplateSection} :
    s.finitePart = s ↔ ∀ x ∈ s.numbers, x.isFinite = true := by
  obtain ⟨id, kindName, title, content, fields, columns, style, condition⟩ := s
  have declared : (∀ fs ∈ fields.toList, fs.map Field.finitePart = fs) ↔
      ∀ f ∈ fields.getD [], ∀ x ∈ f.numbers, x.isFinite = true := by
    cases fields <;> simp [list_map_eq_self_iff, Field.finitePart_eq_self_iff]
  simp only [finitePart, numbers, TemplateSection.declared, mk.injEq, true_and, and_true,
    option_map_eq_self_iff, declared, StyleOverride.finitePart_eq_self_iff,
    List.forall_mem_append, List.forall_mem_flatMap]

namespace Template

/-- The numbers that a template holds. -/
def numbers (t : Template) : List Binary64 :=
  t.sections.flatMap TemplateSection.numbers ++ t.fields.flatMap Field.numbers

/-- The integers that a template holds. -/
def integers (t : Template) : List Int := t.declaredFields.flatMap Field.integers

/-- A template without numbers that are not finite. -/
def finitePart (t : Template) : Template :=
  { t with
    sections := t.sections.map TemplateSection.finitePart
    fields := t.fields.map Field.finitePart }

/-- The finite part of a template is the whole of it exactly when every number in it is
finite. -/
theorem finitePart_eq_self_iff {t : Template} :
    t.finitePart = t ↔ ∀ x ∈ t.numbers, x.isFinite = true := by
  obtain ⟨id, name, version, description, category, createdAt, updatedAt, sections, fields,
    metadata⟩ := t
  simp only [finitePart, numbers, mk.injEq, true_and, and_true, list_map_eq_self_iff,
    TemplateSection.finitePart_eq_self_iff, Field.finitePart_eq_self_iff,
    List.forall_mem_append, List.forall_mem_flatMap]

end Template

/-! ## The integers of a document -/

section Documents

variable {α : Type} {toValue : α → Value}

@[simp]
theorem areEntriesShowable_presentEntries_nil :
    Value.areEntriesShowable (presentEntries []) = true := rfl

@[simp]
theorem areEntriesShowable_presentEntries_cons (name : String) (v? : Option Value)
    (rest : List (String × Option Value)) :
    Value.areEntriesShowable (presentEntries ((name, v?) :: rest)) =
      (v?.all Value.isShowable && Value.areEntriesShowable (presentEntries rest)) := by
  cases v? <;> rfl

theorem all_isShowable_map (shown : ∀ x, (toValue x).isShowable = true) (x? : Option α) :
    (x?.map toValue).all Value.isShowable = true := by
  cases x? with
  | none => rfl
  | some x => exact shown x

@[simp]
theorem all_isShowable_map_text (s? : Option String) :
    (s?.map Value.text).all Value.isShowable = true := all_isShowable_map (fun _ => rfl) s?

@[simp]
theorem all_isShowable_map_float (x? : Option Binary64) :
    (x?.map Value.float).all Value.isShowable = true := all_isShowable_map (fun _ => rfl) x?

theorem areShowable_map (xs : List α) :
    Value.areShowable (xs.map toValue) = xs.all fun x => (toValue x).isShowable := by
  induction xs with
  | nil => rfl
  | cons x xs ih => rw [List.map_cons, Value.areShowable, ih, List.all_cons]

theorem isShowable_list_map_of_forall (shown : ∀ x, (toValue x).isShowable = true) (xs : List α) :
    (Value.list (xs.map toValue)).isShowable = true := by
  rw [Value.isShowable, areShowable_map, List.all_eq_true]
  exact fun x _ => shown x

end Documents

theorem FieldRules.isShowable_toValue (r : FieldRules) : r.toValue.isShowable = true := by
  simp [toValue, Value.isShowable]

/-- The document of a field shows the integers of the field and no others. -/
theorem Field.isShowable_toValue (f : Field) :
    f.toValue.isShowable = f.integers.all Value.isShowableInt := by
  have options := all_isShowable_map
    (isShowable_list_map_of_forall fun o : FieldOption => (rfl : o.toValue.isShowable = true))
    f.options
  have rules := all_isShowable_map FieldRules.isShowable_toValue f.rules
  have default : (f.defaultValue.map Scalar.toValue).all Value.isShowable =
      f.integers.all Value.isShowableInt := by
    rw [integers]
    rcases f.defaultValue with _ | _ | _ | _ | _ <;>
      simp [Scalar.toValue, Scalar.integers, Value.isShowable]
  simp [toValue, Value.isShowable, options, rules, default]

theorem Column.isShowable_toValue (c : Column) : c.toValue.isShowable = true := by
  simp [toValue, Value.isShowable]

theorem StyleOverride.isShowable_toValue (s : StyleOverride) : s.toValue.isShowable = true := by
  simp [toValue, Value.isShowable]

theorem Condition.isShowable_toValue (c : Condition) : c.toValue.isShowable = true := by
  simp [toValue, Value.isShowable]

theorem Metadata.isShowable_toValue (m : Metadata) : m.toValue.isShowable = true := by
  have tags := all_isShowable_map
    (isShowable_list_map_of_forall fun s => (rfl : (Value.text s).isShowable = true)) m.tags
  simp [toValue, Value.isShowable, tags]

theorem TemplateSection.isShowable_toValue (s : TemplateSection) :
    s.toValue.isShowable = (s.declared.flatMap Field.integers).all Value.isShowableInt := by
  have columns := all_isShowable_map (isShowable_list_map_of_forall Column.isShowable_toValue)
    s.columns
  have style := all_isShowable_map StyleOverride.isShowable_toValue s.style
  have condition := all_isShowable_map Condition.isShowable_toValue s.condition
  have fields : (s.fields.map fun fs => .list (fs.map Field.toValue)).all Value.isShowable =
      (s.declared.flatMap Field.integers).all Value.isShowableInt := by
    rw [declared]
    cases s.fields with
    | none => rfl
    | some fs => simp [Value.isShowable, areShowable_map, Field.isShowable_toValue]
  simp [toValue, Value.isShowable, columns, style, condition, fields]

/-- The document of a template shows the integers of the template and no others. -/
theorem Template.isShowable_toValue (t : Template) :
    t.toValue.isShowable = t.integers.all Value.isShowableInt := by
  have metadata := all_isShowable_map Metadata.isShowable_toValue t.metadata
  simp [toValue, Value.isShowable, areShowable_map, TemplateSection.isShowable_toValue,
    Field.isShowable_toValue, metadata, integers, declaredFields, Bool.and_comm]

end Stencil
