/-
# What acceptance says of the parts

A whole is accepted only if its parts are, and it is made of what they were accepted as. So
what holds of all that a reader accepts in a document holds of the attributes of a model, of
the items of a list, and of what stands in the place of null.
-/

import Stencil.Proofs.Record
import Stencil.Schema.Coercion

namespace Stencil.Schema

variable {α β : Type}

namespace Checked

/-- An accepted result of a part goes into the whole. -/
theorem exists_map {f : α → β} {x : Checked α} {P : β → Prop} :
    (∃ b, f <$> x = .accepted b ∧ P b) ↔ ∃ a, x = .accepted a ∧ P (f a) := by
  cases x with
  | accepted a => simp [Functor.map, apply]
  | refused issues =>
      constructor
      · rintro ⟨b, ⟨⟩, -⟩
      · rintro ⟨a, ⟨⟩, -⟩

/-- The last part of a whole is accepted, and so is the rest of it. -/
theorem exists_seq {f : Checked (α → β)} {x : Checked α} {P : β → Prop} :
    (∃ b, f <*> x = .accepted b ∧ P b) ↔
      ∃ a, x = .accepted a ∧ ∃ g, f = .accepted g ∧ P (g a) := by
  cases f with
  | accepted g =>
      cases x with
      | accepted a => simp [Seq.seq, apply]
      | refused issues =>
          constructor
          · rintro ⟨b, ⟨⟩, -⟩
          · rintro ⟨a, ⟨⟩, -⟩
  | refused issues =>
      constructor
      · rintro ⟨b, ⟨⟩, -⟩
      · rintro ⟨a, -, g, ⟨⟩, -⟩

theorem map_eq_accepted {f : α → β} {x : Checked α} {b : β} :
    f <$> x = .accepted b ↔ ∃ a, x = .accepted a ∧ f a = b := by
  rw [← exists_map (P := (· = b))]
  simp

theorem seq_eq_accepted {f : Checked (α → β)} {x : Checked α} {b : β} :
    f <*> x = .accepted b ↔ ∃ g, f = .accepted g ∧ ∃ a, x = .accepted a ∧ g a = b := by
  cases f with
  | accepted g => exact map_eq_accepted (f := g).trans (by simp)
  | refused issues => exact iff_of_false nofun nofun

/-- A further condition is met by what was accepted before. -/
theorem andThen_eq_accepted {x : Checked α} {check : α → Checked β} {b : β} :
    x.andThen check = .accepted b ↔ ∃ a, x = .accepted a ∧ check a = .accepted b := by
  cases x <;> simp [andThen]

theorem within_eq_accepted {step : Step} {x : Checked α} {a : α} :
    x.within step = .accepted a ↔ x = .accepted a := by
  cases x <;> simp [within]

end Checked

/-- Whatever a reader accepts in a value that can be shown is of a kind. -/
def Accepts (read : Value → Checked α) (P : α → Prop) : Prop :=
  ∀ v a, v.isShowable = true → read v = .accepted a → P a

section Reading

variable {read : Value → Checked α} {P : α → Prop} {entries : List (String × Value)} {name : Name}

theorem isShowable_of_attribute? {key : String} {v : Value}
    (showable : ∀ entry ∈ entries, entry.2.isShowable = true)
    (found : attribute? entries name = some (key, v)) : v.isShowable = true := by
  have looked {other : String} {w : Value} (held : entries.lookup other = some w) :
      w.isShowable = true := by
    obtain ⟨before, after, split, -⟩ := List.lookup_eq_some_iff.mp held
    exact showable (other, w) (by simp [split])
  unfold attribute? at found
  split at found
  · rename_i stored
    cases found
    exact looked stored
  · obtain ⟨w, held, same⟩ := Option.map_eq_some_iff.mp found
    cases same
    exact looked held

/-- An attribute with a default is of the kind that its reader accepts, or the default. -/
theorem Accepts.defaulted (h : Accepts read P) {absent a : α} (default : P absent)
    (showable : ∀ entry ∈ entries, entry.2.isShowable = true)
    (accepted : Schema.defaulted entries name absent read = .accepted a) : P a := by
  unfold Schema.defaulted at accepted
  split at accepted
  · rename_i key v found
    exact h v a (isShowable_of_attribute? showable found) (Checked.within_eq_accepted.mp accepted)
  · cases accepted
    exact default

theorem Accepts.nullable (h : Accepts read P) :
    Accepts (readNullable read) fun given => ∀ a ∈ given, P a := by
  intro v given showable accepted a mem
  unfold readNullable at accepted
  split at accepted
  · cases accepted
    cases mem
  · obtain ⟨b, own, same⟩ := Checked.exists_map (P := (· = given)).mp ⟨_, accepted, rfl⟩
    obtain rfl : b = a := Option.some.inj (same.trans mem)
    exact h v b showable own

/-- An attribute that may be absent is of the kind that its reader accepts, if it is there. -/
theorem Accepts.optional (h : Accepts read P) {given : Option α}
    (showable : ∀ entry ∈ entries, entry.2.isShowable = true)
    (accepted : Schema.optional entries name read = .accepted given) : ∀ a ∈ given, P a := by
  have nothing : ∀ a ∈ (none : Option α), P a := by
    rintro a ⟨⟩
  exact h.nullable.defaulted nothing showable accepted

theorem Accepts.list (h : Accepts read P) : Accepts (readList read) fun as => ∀ a ∈ as, P a := by
  have each (items : List Value) (showable : ∀ v ∈ items, v.isShowable = true) (index : Nat)
      (as : List α) (accepted : Checked.items read index items = .accepted as) : ∀ a ∈ as, P a := by
    induction items generalizing index as with
    | nil =>
        cases accepted
        exact List.forall_mem_nil _
    | cons v rest ih =>
        rw [List.forall_mem_cons] at showable
        rw [Checked.items] at accepted
        obtain ⟨others, later, g, first, same⟩ := Checked.exists_seq (P := (· = as)).mp ⟨_, accepted, rfl⟩
        obtain ⟨a, own, cons⟩ := Checked.exists_map (P := (· = g)).mp ⟨_, first, rfl⟩
        cases cons
        cases same
        exact List.forall_mem_cons.mpr
          ⟨h v a showable.1 (Checked.within_eq_accepted.mp own), ih showable.2 _ others later⟩
  intro v as showable accepted
  cases v with
  | list items => exact each items (Value.areShowable_iff.mp showable) 0 as accepted
  | _ => cases accepted

/-- A model is of the kind that is accepted in its entries. -/
theorem accepts_readModel {model : String} {readEntries : List (String × Value) → Checked α}
    (each : ∀ entries a, (∀ entry ∈ entries, entry.2.isShowable = true) →
      readEntries entries = .accepted a → P a) : Accepts (readModel model readEntries) P := by
  intro v a showable accepted
  cases v with
  | object entries => exact each entries a (Value.areEntriesShowable_iff.mp showable) accepted
  | _ => cases accepted

end Reading

end Stencil.Schema
