/-
# What is said in other words

A document may be said in other words: its keys in another order, keys that no model declares
left out or put in, and an attribute under the other one of its two names. One document restates
another if they differ in nothing else, at whatever depth. A reader respects this if it refuses
both documents or reads them as the same. That is shown part by part, with one lemma for each way
to make a reader.
-/

import Mathlib.Data.List.Forall2
import Stencil.Proofs.Record
import Stencil.Schema.Coercion

namespace Stencil.Schema

variable {α β : Type}

/-! ## Documents that restate each other -/

/-- A value that is not made of models stays as it is. Objects have no business in its place, so
that no key in them means anything. -/
inductive RestatesPlain : Value → Value → Prop
  | same (v : Value) : RestatesPlain v v
  | list {xs ys : List Value} (each : List.Forall₂ RestatesPlain xs ys) :
      RestatesPlain (.list xs) (.list ys)
  | object (es fs : List (String × Value)) : RestatesPlain (.object es) (.object fs)

/-- A list restates another one item by item. -/
inductive RestatesList (restates : Value → Value → Prop) : Value → Value → Prop
  | list {xs ys : List Value} (each : List.Forall₂ restates xs ys) :
      RestatesList restates (.list xs) (.list ys)
  | other {v w : Value} (noList : ∀ xs, v ≠ .list xs) (plain : RestatesPlain v w) :
      RestatesList restates v w

/-- An attribute of a model, and when its value restates another one. -/
structure Part where
  name : Name
  restates : Value → Value → Prop

/-- An attribute that is not made of models. -/
def Part.plain (name : Name) : Part := ⟨name, RestatesPlain⟩

/-- An object has a value for an attribute under one of its names. -/
def HoldsUnder (entries : List (String × Value)) (name : Name) (v : Value) : Prop :=
  (name.stored, v) ∈ entries ∨ (name.plain, v) ∈ entries

/-- An object as it is decoded: its keys differ, and no attribute stands there under both of its
names. -/
structure IsUnambiguous (parts : List Part) (entries : List (String × Value)) : Prop where
  distinct : (entries.map Prod.fst).Nodup
  single : ∀ p ∈ parts, p.name.stored ∈ entries.map Prod.fst →
    p.name.plain ∈ entries.map Prod.fst → p.name.stored = p.name.plain

/-- An attribute is absent from both of two objects, or has values there of which one restates
the other. -/
inductive Part.Restates (p : Part) (es fs : List (String × Value)) : Prop
  | absent (first : ∀ v, ¬ HoldsUnder es p.name v) (second : ∀ w, ¬ HoldsUnder fs p.name w)
  | present {v w : Value} (first : HoldsUnder es p.name v) (second : HoldsUnder fs p.name w)
      (same : p.restates v w)

/-- An object restates another one attribute by attribute. -/
structure RestatesEntries (parts : List Part) (es fs : List (String × Value)) : Prop where
  first : IsUnambiguous parts es
  second : IsUnambiguous parts fs
  each : ∀ p ∈ parts, p.Restates es fs

/-- A value in the place of a model restates another one. -/
inductive RestatesModel (parts : List Part) : Value → Value → Prop
  | object {es fs : List (String × Value)} (entries : RestatesEntries parts es fs) :
      RestatesModel parts (.object es) (.object fs)
  | other {v w : Value} (noObject : ∀ es, v ≠ .object es) (plain : RestatesPlain v w) :
      RestatesModel parts v w

/-! ## Readers that go by the meaning -/

/-- Both results are refused, or both are accepted as the same. -/
inductive Checked.Agrees : Checked α → Checked α → Prop
  | accepted (a : α) : Agrees (.accepted a) (.accepted a)
  | refused (issues others : List Issue) : Agrees (.refused issues) (.refused others)

namespace Checked.Agrees

variable {x y : Checked α}

@[refl]
theorem refl (x : Checked α) : x.Agrees x := by
  cases x with
  | accepted a => exact .accepted a
  | refused issues => exact .refused issues issues

theorem map (f : α → β) (agrees : x.Agrees y) : (f <$> x).Agrees (f <$> y) := by
  cases agrees with
  | accepted a => exact .accepted (f a)
  | refused issues others => exact .refused issues others

theorem seq {f g : Checked (α → β)} (functions : f.Agrees g) (agrees : x.Agrees y) :
    (f <*> x).Agrees (g <*> y) := by
  cases functions with
  | accepted f =>
      cases agrees with
      | accepted a => exact .accepted (f a)
      | refused issues others => exact .refused issues others
  | refused issues others => exact .refused _ _

/-- Where the results stand makes no difference. -/
theorem within (step other : Step) (agrees : x.Agrees y) :
    (x.within step).Agrees (y.within other) := by
  cases agrees with
  | accepted a => exact .accepted a
  | refused issues others => exact .refused _ _

end Checked.Agrees

/-- A reader goes by the meaning of a value: the results for values that restate each other
agree. -/
def Respects (restates : Value → Value → Prop) (read : Value → Checked α) : Prop :=
  ∀ v w, restates v w → (read v).Agrees (read w)

section Reading

variable {restates : Value → Value → Prop} {read : Value → Checked α} {parts : List Part}
  {es fs : List (String × Value)} {v w : Value}

/-- A reader that refuses lists and objects goes by the meaning of a value. -/
theorem respects_plain (lists : ∀ xs, ∃ issues, read (.list xs) = .refused issues)
    (objects : ∀ es, ∃ issues, read (.object es) = .refused issues) :
    Respects RestatesPlain read := by
  intro v w plain
  cases plain with
  | same v => exact .refl _
  | list each =>
      obtain ⟨issues, first⟩ := lists _
      obtain ⟨others, second⟩ := lists _
      rw [first, second]
      exact .refused issues others
  | object es fs =>
      obtain ⟨issues, first⟩ := objects es
      obtain ⟨others, second⟩ := objects fs
      rw [first, second]
      exact .refused issues others

theorem respects_text : Respects RestatesPlain readText :=
  respects_plain (fun _ => ⟨_, rfl⟩) fun _ => ⟨_, rfl⟩

theorem respects_number : Respects RestatesPlain readNumber :=
  respects_plain (fun _ => ⟨_, rfl⟩) fun _ => ⟨_, rfl⟩

theorem respects_boolean : Respects RestatesPlain readBoolean :=
  respects_plain (fun _ => ⟨_, rfl⟩) fun _ => ⟨_, rfl⟩

theorem respects_choice {choices : List (String × α)} :
    Respects RestatesPlain (readChoice choices) :=
  respects_plain (fun _ => ⟨_, rfl⟩) fun _ => ⟨_, rfl⟩

theorem agrees_items (respects : Respects restates read) {xs ys : List Value}
    (each : List.Forall₂ restates xs ys) (index : Nat) :
    (Checked.items read index xs).Agrees (Checked.items read index ys) := by
  induction each generalizing index with
  | nil => exact .refl _
  | cons first _ ih => exact (((respects _ _ first).within _ _).map _).seq (ih (index + 1))

theorem respects_list (respects : Respects restates read) :
    Respects (RestatesList restates) (readList read) := by
  rintro v w (each | ⟨noList, plain⟩)
  · exact agrees_items respects each 0
  · cases plain with
    | same v => exact .refl _
    | list each => exact absurd rfl (noList _)
    | object es fs => exact .refused _ _

/-- Null is only restated by null. -/
theorem isNull_eq_of_restatesPlain (plain : RestatesPlain v w) : v.isNull = w.isNull := by
  cases plain <;> rfl

theorem isNull_eq_of_restatesList (same : RestatesList restates v w) : v.isNull = w.isNull := by
  obtain each | ⟨-, plain⟩ := same
  · rfl
  · exact isNull_eq_of_restatesPlain plain

theorem isNull_eq_of_restatesModel (same : RestatesModel parts v w) : v.isNull = w.isNull := by
  obtain entries | ⟨-, plain⟩ := same
  · rfl
  · exact isNull_eq_of_restatesPlain plain

theorem respects_nullable (respects : Respects restates read)
    (null : ∀ {v w}, restates v w → v.isNull = w.isNull) :
    Respects restates (readNullable read) := by
  intro v w same
  cases v with
  | null =>
      have other : w = .null := Value.isNull_iff.mp (null same).symm
      rw [other]
  | _ =>
      have agrees := (respects _ _ same).map some
      cases w with
      | null => cases null same
      | _ => exact agrees

theorem respects_model {model : String} {readEntries : List (String × Value) → Checked α}
    (each : ∀ es fs, RestatesEntries parts es fs → (readEntries es).Agrees (readEntries fs)) :
    Respects (RestatesModel parts) (readModel model readEntries) := by
  rintro v w (entries | ⟨noObject, plain⟩)
  · exact each _ _ entries
  · cases plain with
    | same v => exact .refl _
    | list each => exact .refused _ _
    | object es fs => exact absurd rfl (noObject es)

/-- In an object as it is decoded an attribute has the value that stands under one of its
names. -/
theorem exists_attribute?_iff {p : Part} (unambiguous : IsUnambiguous parts es) (mem : p ∈ parts) :
    (∃ key, attribute? es p.name = some (key, v)) ↔ HoldsUnder es p.name v := by
  have found (key : String) (v : Value) : es.lookup key = some v ↔ (key, v) ∈ es :=
    Record.lookup_eq_some_iff_mem unambiguous.distinct
  rw [HoldsUnder, ← found, ← found, attribute?]
  cases stored : es.lookup p.name.stored with
  | none => simp
  | some u =>
      have only : es.lookup p.name.plain = some v → u = v := by
        intro plain
        have same := unambiguous.single p mem (List.mem_map.mpr ⟨_, (found _ _).mp stored, rfl⟩)
          (List.mem_map.mpr ⟨_, (found _ _).mp plain, rfl⟩)
        rw [← same, stored] at plain
        exact Option.some.inj plain
      simp only [Option.some.injEq, Prod.mk.injEq, exists_eq_left']
      constructor
      · exact .inl
      · rintro (same | plain)
        · exact same
        · exact only plain

namespace RestatesEntries

/-- An attribute is found in neither object, or in both with values of which one restates the
other. -/
theorem attribute?_cases {p : Part} (entries : RestatesEntries parts es fs) (mem : p ∈ parts) :
    (attribute? es p.name = none ∧ attribute? fs p.name = none) ∨
      ∃ key other v w, attribute? es p.name = some (key, v) ∧
        attribute? fs p.name = some (other, w) ∧ p.restates v w := by
  cases entries.each p mem with
  | absent first second =>
      have missing {es : List (String × Value)} (unambiguous : IsUnambiguous parts es)
          (unheld : ∀ v, ¬ HoldsUnder es p.name v) : attribute? es p.name = none := by
        rw [Option.eq_none_iff_forall_ne_some]
        rintro ⟨key, v⟩ found
        exact unheld v ((exists_attribute?_iff unambiguous mem).mp ⟨key, found⟩)
      exact .inl ⟨missing entries.first first, missing entries.second second⟩
  | present first second same =>
      obtain ⟨key, found⟩ := (exists_attribute?_iff entries.first mem).mpr first
      obtain ⟨other, met⟩ := (exists_attribute?_iff entries.second mem).mpr second
      exact .inr ⟨key, other, _, _, found, met, same⟩

theorem required (entries : RestatesEntries parts es fs) (p : Part) (mem : p ∈ parts)
    (respects : Respects p.restates read) :
    (required es p.name read).Agrees (required fs p.name read) := by
  rw [Schema.required, Schema.required]
  rcases entries.attribute?_cases mem with ⟨missed, missing⟩ | ⟨key, other, v, w, found, met, same⟩
  · rw [missed, missing]
  · rw [found, met]
    exact (respects v w same).within _ _

theorem defaulted (entries : RestatesEntries parts es fs) (p : Part) (mem : p ∈ parts) (absent : α)
    (respects : Respects p.restates read) :
    (defaulted es p.name absent read).Agrees (defaulted fs p.name absent read) := by
  rw [Schema.defaulted, Schema.defaulted]
  rcases entries.attribute?_cases mem with ⟨missed, missing⟩ | ⟨key, other, v, w, found, met, same⟩
  · rw [missed, missing]
  · rw [found, met]
    exact (respects v w same).within _ _

theorem optional (entries : RestatesEntries parts es fs) (p : Part) (mem : p ∈ parts)
    (respects : Respects p.restates read) (null : ∀ {v w}, p.restates v w → v.isNull = w.isNull) :
    (optional es p.name read).Agrees (optional fs p.name read) :=
  entries.defaulted p mem none (respects_nullable respects null)

end RestatesEntries

end Reading

end Stencil.Schema
