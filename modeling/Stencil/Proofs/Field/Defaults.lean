/-
# Which default fills a gap

Defaults are filled in field by field, so a gap is filled by the first field of the list
that has its key and a default at all. Later defaults of the key find no gap any more.
All declarations of a template take part in this, also those that discovery reports as
ignored.
-/

import Stencil.Proofs.Field.Discovery
import Stencil.Proofs.Record

namespace Stencil

theorem Scalar.isNull_toValue (scalar : Scalar) : scalar.toValue.isNull = false := by
  cases scalar <;> rfl

/-- Whether a field has a default for a key. -/
def Field.supplies (key : String) (f : Field) : Bool := f.key == key && f.defaultValue.isSome

/-- The first field that has a default for a key. -/
def supplier? (fields : List Field) (key : String) : Option Field := fields.find? (·.supplies key)

/-- The default that fields have for a key. -/
def defaultFor? (fields : List Field) (key : String) : Option Scalar :=
  (supplier? fields key).bind Field.defaultValue

/-- The field that supplies a key has the default for it. -/
theorem defaultFor?_of_supplier? {fields : List Field} {key : String} {f : Field}
    (found : supplier? fields key = some f) :
    ∃ scalar, f.defaultValue = some scalar ∧ defaultFor? fields key = some scalar := by
  have supplies : f.supplies key = true := List.find?_some found
  obtain ⟨scalar, given⟩ := Option.isSome_iff_exists.mp (Bool.and_eq_true_iff.mp supplies).2
  exact ⟨scalar, given, by rw [defaultFor?, found, Option.bind_some, given]⟩

/-- A list of fields has a default for a key exactly when one of its fields with the key has
one. -/
theorem isSome_defaultFor?_iff {fields : List Field} {key : String} :
    (defaultFor? fields key).isSome = true ↔
      ∃ f ∈ fields, f.key = key ∧ f.defaultValue ≠ none := by
  constructor
  · intro given
    obtain ⟨scalar, given⟩ := Option.isSome_iff_exists.mp given
    obtain ⟨f, found, given⟩ := Option.bind_eq_some_iff.mp given
    have same : f.key = key := by
      have supplies : f.supplies key = true := List.find?_some found
      simpa using (Bool.and_eq_true_iff.mp supplies).1
    exact ⟨f, List.mem_of_find?_eq_some found, same, by simp [given]⟩
  · intro given
    obtain ⟨f, mem, rfl, given⟩ := given
    have supplies : f.supplies f.key = true := by
      simpa [Field.supplies, Option.isSome_iff_ne_none] using given
    obtain ⟨supplier, found⟩ : ∃ supplier, supplier? fields f.key = some supplier :=
      Option.isSome_iff_exists.mp (List.find?_isSome.mpr ⟨f, mem, supplies⟩)
    obtain ⟨scalar, -, chosen⟩ := defaultFor?_of_supplier? found
    simp [chosen]

theorem defaultFor?_cons (f : Field) (rest : List Field) (key : String) :
    defaultFor? (f :: rest) key = (defaultFor? [f] key).or (defaultFor? rest key) := by
  cases own : f.supplies key with
  | false => simp [defaultFor?, supplier?, own]
  | true =>
      have given : f.defaultValue.isSome = true := (Bool.and_eq_true_iff.mp own).2
      obtain ⟨scalar, given⟩ := Option.isSome_iff_exists.mp given
      simp [defaultFor?, supplier?, own, given]

namespace Record

variable {record : Record} {key : String}

theorem get?_insert (record : Record) (key other : String) (v : Value) :
    (record.insert key v).get? other = if other = key then some v else record.get? other :=
  lookup_insertEntry key other v record.entries

/-- Filling in the default of a field changes a gap under its key and nothing else. -/
theorem get?_fill (record : Record) (f : Field) (key : String) :
    (record.fill f).get? key =
      if (record.value key).isNull = true then
        ((defaultFor? [f] key).map Scalar.toValue).or (record.get? key)
      else record.get? key := by
  cases given : f.defaultValue with
  | none => simp [fill, given, defaultFor?, supplier?, Field.supplies]
  | some scalar =>
      by_cases same : f.key = key
      · subst same
        by_cases gap : (record.value f.key).isNull = true <;>
          simp [fill, given, defaultFor?, supplier?, Field.supplies, gap, get?_insert]
      · by_cases gap : (record.value f.key).isNull = true <;>
          simp [fill, given, defaultFor?, supplier?, Field.supplies, gap, same, get?_insert,
            Ne.symm same]

theorem isNull_value_of_get?_eq_some {scalar : Scalar}
    (found : record.get? key = some scalar.toValue) : (record.value key).isNull = false := by
  simp [value, found, scalar.isNull_toValue]

/-- A gap is filled with the first default of its key, and all else stays. -/
theorem get?_withDefaults (record : Record) (fields : List Field) (key : String) :
    (record.withDefaults fields).get? key =
      if (record.value key).isNull = true then
        ((defaultFor? fields key).map Scalar.toValue).or (record.get? key)
      else record.get? key := by
  induction fields generalizing record with
  | nil => simp [withDefaults, defaultFor?, supplier?]
  | cons f rest ih =>
      have first := record.get?_fill f key
      show ((record.fill f).withDefaults rest).get? key = _
      rw [ih, defaultFor?_cons]
      by_cases gap : (record.value key).isNull = true
      · rw [if_pos gap] at first ⊢
        cases own : defaultFor? [f] key with
        | none =>
            -- the gap is still there for the other fields
            rw [own, Option.map_none, Option.none_or] at first
            rw [value, first, ← value, if_pos gap, Option.none_or]
        | some scalar =>
            rw [own, Option.map_some, Option.some_or] at first
            rw [isNull_value_of_get?_eq_some first, first]
            rfl
      · rw [if_neg gap] at first ⊢
        rw [value, first, ← value, if_neg gap]

/-- After the defaults of fields are filled in, none of them finds a gap. -/
theorem isNull_value_withDefaults {fields : List Field} {f : Field} (mem : f ∈ fields)
    (given : f.defaultValue.isSome = true) :
    ((record.withDefaults fields).value f.key).isNull = false := by
  have filled := record.get?_withDefaults fields f.key
  by_cases gap : (record.value f.key).isNull = true
  · obtain ⟨scalar, chosen⟩ := Option.isSome_iff_exists.mp <| isSome_defaultFor?_iff.mpr
      ⟨f, mem, rfl, Option.isSome_iff_ne_none.mp given⟩
    rw [if_pos gap, chosen, Option.map_some, Option.some_or] at filled
    exact isNull_value_of_get?_eq_some filled
  · rw [if_neg gap] at filled
    rw [value, filled, ← value]
    exact Bool.not_eq_true _ ▸ gap

/-- Where no field finds a gap, there is nothing to fill in. -/
theorem withDefaults_eq_self {fields : List Field}
    (filled : ∀ f ∈ fields, f.defaultValue.isSome = true → (record.value f.key).isNull = false) :
    record.withDefaults fields = record := by
  induction fields with
  | nil => rfl
  | cons f rest ih =>
      have unchanged : record.fill f = record := by
        cases given : f.defaultValue with
        | none => rw [fill, given]
        | some scalar =>
            have full := filled f (List.mem_cons_self ..) (by rw [given]; rfl)
            rw [fill, given]
            simp [full]
      show (record.fill f).withDefaults rest = record
      rw [unchanged]
      exact ih fun other mem => filled other (List.mem_cons_of_mem f mem)

/-- The defaults of fields are filled in once and for all. -/
theorem withDefaults_withDefaults (record : Record) (fields : List Field) :
    (record.withDefaults fields).withDefaults fields = record.withDefaults fields :=
  withDefaults_eq_self fun _ mem given => isNull_value_withDefaults mem given

end Record

/-- A field without its default. -/
def Field.withoutDefault (f : Field) : Field := { f with defaultValue := none }

/-- A section with a change to each of its declared fields. -/
def TemplateSection.mapFields (change : Field → Field) (s : TemplateSection) : TemplateSection :=
  { s with fields := s.fields.map (List.map change) }

/-- The first member with a property is also the first one with a stronger property that
it has. -/
theorem find?_eq_of_stronger {α : Type} {weak strong : α → Bool} {xs : List α}
    (weaker : ∀ x, strong x = true → weak x = true)
    (first : ∀ x, xs.find? weak = some x → strong x = true) :
    xs.find? strong = xs.find? weak := by
  induction xs with
  | nil => rfl
  | cons x rest ih =>
      cases here : weak x with
      | true =>
          have also : strong x = true := first x (by rw [List.find?_cons_of_pos here])
          rw [List.find?_cons_of_pos here, List.find?_cons_of_pos also]
      | false =>
          have neither : ¬ strong x = true := fun also => by simp [weaker x also] at here
          rw [List.find?_cons_of_neg neither, List.find?_cons_of_neg (by simp [here])]
          exact ih fun y found => first y (by rw [List.find?_cons_of_neg (by simp [here]), found])

namespace Template

variable {t : Template} {f : Field} {key : String}

/-- A template with a change to each of its declared fields. -/
def mapFields (change : Field → Field) (t : Template) : Template :=
  { t with
    fields := t.fields.map change
    sections := t.sections.map (TemplateSection.mapFields change) }

theorem declaredFields_mapFields (change : Field → Field) (t : Template) :
    (t.mapFields change).declaredFields = t.declaredFields.map change := by
  have declared (s : TemplateSection) : (s.mapFields change).declared = s.declared.map change := by
    cases given : s.fields <;> simp [TemplateSection.declared, TemplateSection.mapFields, given]
  simp [declaredFields, mapFields, List.flatMap_map, List.map_flatMap, declared]

/-- Whether discovery reports a declaration as the ignored one of a conflict. -/
def ignores (t : Template) (f : Field) : Bool :=
  t.discovery.conflicts.any fun c => decide (c.ignored = f)

/-- The template without the defaults of the declarations that it ignores. -/
def withoutIgnoredDefaults (t : Template) : Template :=
  t.mapFields fun f => if t.ignores f then f.withoutDefault else f

/-- A field that is kept for its key is not ignored. -/
theorem not_ignores_of_get?_discovery (kept : t.discovery.get? key = some f) :
    t.ignores f = false := by
  have same : f.key = key := by simpa using List.find?_some kept
  rw [ignores, List.any_eq_false]
  rintro ⟨other, _, origin⟩ mem ignored
  obtain rfl := of_decide_eq_true ignored
  obtain ⟨found, apart⟩ := t.isConsistent_discovery.conflict _ mem
  rw [Conflict.key, same, kept] at found
  exact apart (congrArg Field.type (Option.some.inj found).symm)

/-- A field that is kept for its key and has a default supplies the key. -/
theorem supplier?_of_get?_discovery (kept : t.discovery.get? key = some f)
    (given : f.defaultValue ≠ none) : supplier? t.declaredFields key = some f := by
  have same : f.key = key := by simpa using List.find?_some kept
  rw [get?_discovery, Option.or_eq_some_iff] at kept
  rcases kept with first | ⟨-, implied⟩
  · -- the first declaration of the key is also the first one that has a default for it
    rw [supplier?, ← first, firstDeclared?]
    apply find?_eq_of_stronger
    · intro other supplies
      exact (Bool.and_eq_true_iff.mp supplies).1
    · intro other found
      obtain rfl : other = f := Option.some.inj (found.symm.trans first)
      simpa [Field.supplies, same, Option.isSome_iff_ne_none] using given
  · exact absurd (not_isRequired_of_mem_impliedFields (List.mem_of_find?_eq_some implied)).2 given

/-- Where the supplier of a key is not an ignored declaration, it stays the supplier
without the defaults of those. -/
theorem defaultFor?_withoutIgnoredDefaults
    (heeded : ∀ f, supplier? t.declaredFields key = some f → t.ignores f = false) :
    defaultFor? t.withoutIgnoredDefaults.declaredFields key = defaultFor? t.declaredFields key := by
  -- a changed declaration supplies the key only if it did before, and the supplier still does
  have same : t.declaredFields.find?
      (Field.supplies key ∘ fun f => if t.ignores f then f.withoutDefault else f) =
        supplier? t.declaredFields key := by
    apply find?_eq_of_stronger
    · intro f supplies
      by_cases ignored : t.ignores f = true
      · simp [ignored, Field.withoutDefault, Field.supplies] at supplies
      · simpa [ignored] using supplies
    · intro f found
      simpa [heeded f found] using List.find?_some found
  rw [defaultFor?, supplier?, withoutIgnoredDefaults, declaredFields_mapFields, List.find?_map,
    same, defaultFor?]
  cases found : supplier? t.declaredFields key with
  | none => rfl
  | some f => simp [heeded f found]

end Template

end Stencil
