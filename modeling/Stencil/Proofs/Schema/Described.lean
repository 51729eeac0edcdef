/-
# What a schema describes

A schema describes a format that is also written and read. A shape describes what is written if
it admits every value that is written, and what is read if every value that it admits is
accepted, as long as the names in the value are declared and its numbers fit into binary ones.
Both are shown part by part, with one lemma for each way to make a shape.
-/

import Stencil.Proofs.Json.RoundTrip
import Stencil.Proofs.Schema.Acceptance
import Stencil.Proofs.Schema.Attribute
import Stencil.Proofs.Schema.Instance

namespace Stencil

/-- The names in a value are among some names, and the numbers in it fit into binary ones. -/
inductive Value.IsPlain (names : List String) : Value → Prop
  | null : IsPlain names .null
  | bool (b : Bool) : IsPlain names (.bool b)
  | int {i : Int} (fits : (Binary64.ofInt i).isFinite = true) : IsPlain names (.int i)
  | float {x : Binary64} (finite : x.isFinite = true) : IsPlain names (.float x)
  | text (s : String) : IsPlain names (.text s)
  | list {items : List Value} (each : ∀ v ∈ items, IsPlain names v) : IsPlain names (.list items)
  | object {entries : List (String × Value)} (declared : ∀ entry ∈ entries, entry.1 ∈ names)
      (each : ∀ entry ∈ entries, IsPlain names entry.2) : IsPlain names (.object entries)

namespace Schema

open Json (storedValue)

variable {α β : Type} {definitions : List (String × Value)} {names : List String}

/-! ## What is written -/

section Writing

variable {p : Property} {properties : List Property} {attributes : List (String × Option Value)}

/-- An attribute describes what is written under its name: the shape admits the value, and there
is one if there has to be. -/
structure Property.Describes (definitions : List (String × Value)) (p : Property)
    (a : String × Option Value) : Prop where
  name : p.name = a.1
  admits : ∀ v ∈ a.2, p.shape.Admits definitions (v.reread storedValue)
  present : p.isRequired = true → a.2.isSome = true

theorem Property.Describes.of_some {v : Value}
    (admits : p.shape.Admits definitions (v.reread storedValue)) :
    p.Describes definitions (p.name, some v) :=
  ⟨rfl, fun _ mem => Option.mem_some_iff.mp mem ▸ admits, fun _ => rfl⟩

theorem Property.Describes.of_map {x? : Option α} {toValue : α → Value}
    (optional : p.isRequired = false)
    (admits : ∀ x, p.shape.Admits definitions ((toValue x).reread storedValue)) :
    p.Describes definitions (p.name, x?.map toValue) := by
  refine ⟨rfl, fun v mem => ?_, fun required => ?_⟩
  · obtain ⟨x, -, rfl⟩ := Option.map_eq_some_iff.mp mem
    exact admits x
  · rw [optional] at required
    cases required

theorem exists_describes (described : List.Forall₂ (Property.Describes definitions) properties
    attributes) : ∀ p ∈ properties, ∃ a ∈ attributes, p.Describes definitions a := by
  induction described with
  | nil => exact List.forall_mem_nil _
  | cons first _ ih =>
      refine List.forall_mem_cons.mpr ⟨⟨_, .head _, first⟩, fun p mem => ?_⟩
      obtain ⟨a, inside, describes⟩ := ih p mem
      exact ⟨a, .tail _ inside, describes⟩

/-- An object of attributes fits a model whose attributes describe them one by one. -/
theorem admits_model {description : String}
    (described : List.Forall₂ (Property.Describes definitions) properties attributes)
    (distinct : (attributes.map Prod.fst).Nodup) :
    (Definition.model description properties).Admits definitions
      ((Value.object (presentEntries attributes)).reread storedValue) := by
  obtain ⟨entries, object, holds⟩ := exists_holds storedValue distinct
  refine ⟨entries, object, fun p mem => ?_⟩
  obtain ⟨⟨name, v?⟩, inside, rfl, admits, present⟩ := exists_describes described p mem
  have found := holds.found p.name v? inside
  refine ⟨fun w held => ?_, fun required => ?_⟩
  · obtain ⟨v, rfl, rfl⟩ := Option.map_eq_some_iff.mp (found.symm.trans held)
    exact admits v rfl
  · obtain ⟨v, rfl⟩ := Option.isSome_iff_exists.mp (present required)
    exact ⟨_, found⟩

theorem admits_nullable_of {shape : Shape} {v : Value} (admits : shape.Admits definitions v) :
    shape.nullable.Admits definitions v :=
  admits_nullable.mpr (.inl admits)

theorem admits_text_reread (s : String) :
    Shape.text.Admits definitions ((Value.text s).reread storedValue) :=
  admits_text.mpr ⟨s, rfl⟩

theorem admits_nullable_text_reread (s : String) :
    Shape.text.nullable.Admits definitions ((Value.text s).reread storedValue) :=
  admits_nullable_of (admits_text_reread s)

/-- A number is written as itself if it is finite and as null otherwise. -/
theorem admits_nullable_number_reread (x : Binary64) :
    Shape.number.nullable.Admits definitions ((Value.float x).reread storedValue) := by
  rw [admits_nullable, admits_number, Value.reread, storedValue]
  by_cases finite : x.isFinite = true
  · simp [finite]
  · simp [finite]

/-- A list is written item by item. -/
theorem admits_list_reread {item : Shape} {toValue : α → Value}
    (each : ∀ x, item.Admits definitions ((toValue x).reread storedValue)) (xs : List α) :
    (Shape.list item).Admits definitions ((Value.list (xs.map toValue)).reread storedValue) := by
  rw [admits_list, Value.reread, Value.rereadItems_eq_map, List.map_map]
  exact ⟨_, rfl, List.forall_mem_map.mpr fun x _ => each x⟩

end Writing

/-! ## What is read -/

/-- A result without issues. -/
def Checked.IsAccepted (x : Checked α) : Prop := ∃ a, x = .accepted a

namespace Checked

@[simp]
theorem isAccepted_accepted (a : α) : (accepted a).IsAccepted := ⟨a, rfl⟩

@[simp]
theorem isAccepted_map {f : α → β} {x : Checked α} : (f <$> x).IsAccepted ↔ x.IsAccepted := by
  simpa [IsAccepted] using exists_map (f := f) (x := x) (P := fun _ => True)

@[simp]
theorem isAccepted_seq {f : Checked (α → β)} {x : Checked α} :
    (f <*> x).IsAccepted ↔ f.IsAccepted ∧ x.IsAccepted := by
  simpa [IsAccepted, and_comm] using exists_seq (f := f) (x := x) (P := fun _ => True)

@[simp]
theorem isAccepted_within {step : Step} {x : Checked α} :
    (x.within step).IsAccepted ↔ x.IsAccepted := by
  cases x <;> simp [within, IsAccepted]

theorem isAccepted_items {check : Value → Checked α} {items : List Value} (index : Nat)
    (each : ∀ v ∈ items, (check v).IsAccepted) : (Checked.items check index items).IsAccepted := by
  induction items generalizing index with
  | nil => exact isAccepted_accepted []
  | cons v rest ih =>
      obtain ⟨first, others⟩ := List.forall_mem_cons.mp each
      rw [Checked.items, isAccepted_seq, isAccepted_map, isAccepted_within]
      exact ⟨first, ih (index + 1) others⟩

end Checked

/-- A reader accepts what a shape admits. -/
def Shape.IsReadBy (definitions : List (String × Value)) (names : List String) (shape : Shape)
    (read : Value → Checked α) : Prop :=
  ∀ v, v.IsPlain names → shape.Admits definitions v → (read v).IsAccepted

/-- A reader accepts what fits a definition. -/
def Definition.IsReadBy (definitions : List (String × Value)) (names : List String)
    (d : Definition) (read : Value → Checked α) : Prop :=
  ∀ v, v.IsPlain names → d.Admits definitions v → (read v).IsAccepted

section Reading

variable {shape item : Shape} {read : Value → Checked α} {p : Property}
  {entries : List (String × Value)} {name : Name}

theorem isReadBy_text : Shape.text.IsReadBy definitions names readText := by
  intro v _ admits
  obtain ⟨s, rfl⟩ := admits_text.mp admits
  exact ⟨s, rfl⟩

theorem isReadBy_boolean : Shape.boolean.IsReadBy definitions names readBoolean := by
  intro v _ admits
  obtain ⟨b, rfl⟩ := admits_boolean.mp admits
  exact ⟨b, rfl⟩

theorem isReadBy_number : Shape.number.IsReadBy definitions names readNumber := by
  intro v plain admits
  rcases admits_number.mp admits with ⟨i, rfl⟩ | ⟨x, rfl, -⟩
  · obtain _ | _ | fits := plain
    exact ⟨Binary64.ofInt i, if_pos fits⟩
  · exact ⟨x, rfl⟩

theorem isReadBy_list (h : item.IsReadBy definitions names read) :
    (Shape.list item).IsReadBy definitions names (readList read) := by
  intro v plain admits
  obtain ⟨items, rfl, each⟩ := admits_list.mp admits
  cases plain with
  | list plain => exact Checked.isAccepted_items 0 fun v mem => h v (plain v mem) (each v mem)

theorem isReadBy_nullable (h : shape.IsReadBy definitions names read) :
    shape.nullable.IsReadBy definitions names (readNullable read) := by
  intro v plain admits
  rcases admits_nullable.mp admits with own | rfl
  · have accepted := h v plain own
    unfold readNullable
    split
    · exact Checked.isAccepted_accepted none
    · exact Checked.isAccepted_map.mpr accepted
  · exact Checked.isAccepted_accepted none

theorem isReadBy_choice {description : String} {choices : List (String × α)} :
    (Definition.choice description (choices.map Prod.fst)).IsReadBy definitions names
      (readChoice choices) := by
  rintro _ - ⟨s, mem, rfl⟩
  obtain ⟨choice, inside, rfl⟩ := List.mem_map.mp mem
  cases held : choices.lookup choice.1 with
  | some a => exact ⟨a, by simp [readChoice, held]⟩
  | none => simpa using List.lookup_eq_none_iff.mp held choice inside

/-- A reader of the entries of an object accepts what keeps the attributes of a model. -/
theorem isReadBy_readModel {description model : String} {properties : List Property}
    {readEntries : List (String × Value) → Checked α}
    (each : ∀ entries, (Value.object entries).IsPlain names →
      (∀ p ∈ properties, p.IsKept definitions entries) → (readEntries entries).IsAccepted) :
    (Definition.model description properties).IsReadBy definitions names
      (readModel model readEntries) := by
  rintro _ plain ⟨entries, rfl, kept⟩
  exact each entries plain kept

theorem isPlain_of_lookup {key : String} {v : Value} (plain : (Value.object entries).IsPlain names)
    (held : entries.lookup key = some v) : key ∈ names ∧ v.IsPlain names := by
  obtain ⟨before, after, split, -⟩ := List.lookup_eq_some_iff.mp held
  cases plain with
  | object declared each => exact ⟨declared (key, v) (by simp [split]), each (key, v) (by simp [split])⟩

theorem isAccepted_required (plain : (Value.object entries).IsPlain names)
    (kept : p.IsKept definitions entries) (needed : p.isRequired = true)
    (stored : p.name = name.stored) (reads : p.shape.IsReadBy definitions names read) :
    (required entries name read).IsAccepted := by
  obtain ⟨v, held⟩ := kept.present needed
  have accepted := reads v (isPlain_of_lookup plain held).2 (kept.admits v held)
  rw [stored] at held
  simpa [required, attribute?, held] using accepted

/-- An attribute with a default is accepted if nothing stands under its plain name. -/
theorem isAccepted_defaulted (plain : (Value.object entries).IsPlain names)
    (kept : p.IsKept definitions entries) (stored : p.name = name.stored)
    (other : name.plain = name.stored ∨ name.plain ∉ names) {absent : α}
    (reads : p.shape.IsReadBy definitions names read) :
    (defaulted entries name absent read).IsAccepted := by
  rw [← stored] at other
  cases held : entries.lookup p.name with
  | some v =>
      have accepted := reads v (isPlain_of_lookup plain held).2 (kept.admits v held)
      rw [stored] at held
      simpa [defaulted, attribute?, held] using accepted
  | none =>
      have absent : entries.lookup name.plain = none := by
        rcases other with same | fresh
        · rw [same, held]
        · cases found : entries.lookup name.plain with
          | none => rfl
          | some v => exact absurd (isPlain_of_lookup plain found).1 fresh
      rw [stored] at held
      simp [defaulted, attribute?, held, absent]

/-- An attribute that may be null is accepted if what stands for it otherwise is. -/
theorem isAccepted_optional (plain : (Value.object entries).IsPlain names)
    (kept : p.IsKept definitions entries) (stored : p.name = name.stored)
    (other : name.plain = name.stored ∨ name.plain ∉ names) (nullable : p.shape = shape.nullable)
    (reads : shape.IsReadBy definitions names read) : (optional entries name read).IsAccepted :=
  isAccepted_defaulted plain kept stored other (nullable ▸ isReadBy_nullable reads)

end Reading

end Schema

end Stencil
