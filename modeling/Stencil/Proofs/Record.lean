/-
# What records hold

A record is read key by key, so two records are as good as each other for a reader
that asks for keys on which they agree. Filling in a default keeps the agreement,
whether or not the filled key is among the keys agreed on.
-/

import Stencil.Field.Defaults
import Stencil.Proofs.Log.Trace
import Stencil.Value.Display

namespace Stencil

namespace Value

theorem isNull_iff {v : Value} : v.isNull = true ↔ v = .null := by
  cases v <;> simp [isNull]

/-- A value without presence is null or the empty text. -/
theorem isPresent_eq_false_iff {v : Value} : v.isPresent = false ↔ v = .null ∨ v = .text "" := by
  cases v <;> simp [isPresent]

/-- A value is displayed exactly when it has a text. -/
@[simp]
theorem hasResult_display [Machine] {v : Value} {occasion : Occasion} :
    HasResult (v.display occasion) ↔ v.hasText occasion = true := by
  rw [display, hasText]
  cases Machine.allows (.showing occasion v) <;> cases v.isShowable <;> simp

theorem areShowable_iff {items : List Value} :
    areShowable items = true ↔ ∀ v ∈ items, v.isShowable = true := by
  induction items with
  | nil => simp [areShowable]
  | cons v rest ih => simp [areShowable, ih]

theorem areEntriesShowable_iff {entries : List (String × Value)} :
    areEntriesShowable entries = true ↔ ∀ entry ∈ entries, entry.2.isShowable = true := by
  induction entries with
  | nil => simp [areEntriesShowable]
  | cons entry rest ih => simp [areEntriesShowable, ih]

end Value

namespace Record

theorem lookup_cons_eq {γ : Type} (key other : String) (v : γ) (rest : List (String × γ)) :
    ((key, v) :: rest).lookup other = if other = key then some v else rest.lookup other := by
  by_cases same : other = key
  · simp [same]
  · have apart : (other == key) = false := beq_false_of_ne same
    simp [List.lookup_cons, apart, same]

/-- Among entries with distinct names each is found under its own name. -/
theorem lookup_eq_some_iff_mem {γ : Type} {key : String} {v : γ} {entries : List (String × γ)}
    (distinct : (entries.map Prod.fst).Nodup) :
    entries.lookup key = some v ↔ (key, v) ∈ entries := by
  induction entries with
  | nil => simp
  | cons entry rest ih =>
      obtain ⟨name, w⟩ := entry
      obtain ⟨fresh, others⟩ := List.nodup_cons.mp distinct
      rw [lookup_cons_eq, List.mem_cons, Prod.mk.injEq]
      by_cases same : key = name
      · subst same
        have later : (key, v) ∉ rest := fun mem => fresh (List.mem_map.mpr ⟨_, mem, rfl⟩)
        simp [later, eq_comm]
      · simp [same, ih others]

theorem lookup_insertEntry (key other : String) (v : Value) (entries : List (String × Value)) :
    (insertEntry key v entries).lookup other =
      if other = key then some v else entries.lookup other := by
  induction entries with
  | nil => simp [insertEntry, lookup_cons_eq]
  | cons entry rest ih =>
      obtain ⟨k, old⟩ := entry
      by_cases found : k = key
      · subst found
        by_cases same : other = k <;> simp [insertEntry, lookup_cons_eq, same]
      · rw [insertEntry, if_neg found, lookup_cons_eq, lookup_cons_eq, ih]
        by_cases same : other = k
        · simp [same, found]
        · simp [same]

/-- Storing a value adds no entry but that of the value. -/
theorem mem_insertEntry {key : String} {v : Value} {entry : String × Value}
    {entries : List (String × Value)} (mem : entry ∈ insertEntry key v entries) :
    entry = (key, v) ∨ entry ∈ entries := by
  induction entries with
  | nil => exact .inl (List.mem_singleton.mp mem)
  | cons first rest ih =>
      obtain ⟨k, old⟩ := first
      rw [insertEntry] at mem
      split at mem
      · rcases List.mem_cons.mp mem with same | later
        · exact .inl same
        · exact .inr (List.mem_cons_of_mem _ later)
      · rcases List.mem_cons.mp mem with rfl | later
        · exact .inr List.mem_cons_self
        · exact (ih later).imp_right (List.mem_cons_of_mem _)

/-- The entries of a record are among those that it was made of. -/
theorem mem_entries_ofEntries {entry : String × Value} {entries : List (String × Value)}
    (mem : entry ∈ (ofEntries entries).entries) : entry ∈ entries := by
  have kept (added : List (String × Value)) (record : Record)
      (inside : entry ∈
        (added.foldl (fun record entry => record.insert entry.1 entry.2) record).entries) :
      entry ∈ record.entries ∨ entry ∈ added := by
    induction added generalizing record with
    | nil => exact .inl inside
    | cons first rest ih =>
        rcases ih (record.insert first.1 first.2) inside with before | later
        · rcases mem_insertEntry before with rfl | old
          · exact .inr List.mem_cons_self
          · exact .inl old
        · exact .inr (List.mem_cons_of_mem _ later)
  exact (kept entries empty mem).resolve_left List.not_mem_nil

/-- Storing a value changes the value of its key and of no other one. -/
theorem value_insert (record : Record) (key other : String) (v : Value) :
    (record.insert key v).value other = if other = key then v else record.value other := by
  simp only [value, get?, insert, lookup_insertEntry]
  split <;> rfl

/-- Filling in a default changes the value of one key, and only if that was null. -/
theorem value_fill (record : Record) (field : Field) (key : String) :
    (record.fill field).value key =
      if key = field.key ∧ (record.value key).isNull = true then
        field.defaultValue.elim .null Scalar.toValue
      else record.value key := by
  cases given : field.defaultValue with
  | none =>
      simp only [fill, given, Option.elim]
      by_cases gap : key = field.key ∧ (record.value key).isNull = true
      · rw [if_pos gap]
        exact Value.isNull_iff.mp gap.2
      · rw [if_neg gap]
  | some value =>
      simp only [fill, given, Option.elim]
      by_cases gap : (record.value field.key).isNull = true
      · rw [if_pos gap, value_insert]
        by_cases same : key = field.key
        · subst same
          simp [gap]
        · simp [same]
      · rw [if_neg gap, if_neg]
        rintro ⟨rfl, isNull⟩
        exact gap isNull

/-- Two records agree on keys that have the same value in both. A missing key has the
value null. -/
def AgreesOn (keys : List String) (first second : Record) : Prop :=
  ∀ key ∈ keys, first.value key = second.value key

variable {keys : List String} {first second : Record}

theorem AgreesOn.mono {fewer : List String} (h : first.AgreesOn keys second)
    (subset : ∀ key ∈ fewer, key ∈ keys) : first.AgreesOn fewer second :=
  fun key mem => h key (subset key mem)

/-- Agreement survives the filling of a gap. -/
theorem AgreesOn.fill (h : first.AgreesOn keys second) (field : Field) :
    (first.fill field).AgreesOn keys (second.fill field) := by
  intro key mem
  rw [value_fill, value_fill, h key mem]

/-- Agreement survives the filling of all gaps. -/
theorem AgreesOn.withDefaults (h : first.AgreesOn keys second) (fields : List Field) :
    (first.withDefaults fields).AgreesOn keys (second.withDefaults fields) := by
  induction fields generalizing first second with
  | nil => exact h
  | cons field rest ih => exact ih (h.fill field)

/-- Every integer in the record can be shown. -/
def IsShowable (record : Record) : Prop :=
  ∀ entry ∈ record.entries, entry.2.isShowable = true

instance (record : Record) : Decidable record.IsShowable :=
  inferInstanceAs (Decidable (∀ entry ∈ record.entries, entry.2.isShowable = true))

/-- The record that a showable object holds is showable. -/
theorem isShowable_of_record? {v : Value} {record : Record} (held : v.record? = some record)
    (showable : v.isShowable = true) : record.IsShowable := by
  cases v with
  | object entries =>
      obtain rfl := Option.some.inj held
      exact Value.areEntriesShowable_iff.mp showable
  | _ => cases held

theorem IsShowable.value {record : Record} (h : record.IsShowable) (key : String) :
    (record.value key).isShowable = true := by
  cases found : record.entries.lookup key with
  | none => simp [Record.value, get?, found, Value.isShowable]
  | some v =>
      obtain ⟨before, after, split, -⟩ := List.lookup_eq_some_iff.mp found
      have mem : (key, v) ∈ record.entries := by simp [split]
      simpa [Record.value, get?, found] using h _ mem

/-- Storing a value that can be shown keeps a record showable. -/
theorem IsShowable.insert {record : Record} {key : String} {v : Value}
    (h : record.IsShowable) (shown : v.isShowable = true) : (record.insert key v).IsShowable := by
  intro entry mem
  rcases mem_insertEntry mem with rfl | old
  · exact shown
  · exact h entry old

end Record

end Stencil
