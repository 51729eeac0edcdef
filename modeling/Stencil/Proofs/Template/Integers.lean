/-
# The integers of a loaded template

The only integers that a template keeps are default values of its fields, and they are kept as
they are in its document. The reader of texts refuses integers that are too long to be shown,
so a template that is loaded from a text has none of them, and neither have the built-in ones.
-/

import Stencil.Catalog
import Stencil.Proofs.Json.Reading
import Stencil.Proofs.Schema.Acceptance
import Stencil.Proofs.Template.FinitePart
import Stencil.Template.Load

namespace Stencil

open Schema

theorem accepts_scalar :
    Accepts Scalar.read fun scalar => ∀ i ∈ scalar.integers, Value.isShowableInt i = true := by
  intro v scalar showable accepted
  cases v with
  | int i =>
      cases accepted
      exact List.forall_mem_singleton.mpr showable
  | text s | float x | bool b =>
      cases accepted
      exact List.forall_mem_nil _
  | _ => cases accepted

/-- The integers of a field are those of its document. -/
theorem accepts_field :
    Accepts Field.read fun f => ∀ i ∈ f.integers, Value.isShowableInt i = true := by
  apply accepts_readModel
  intro entries f showable accepted
  have parts := (⟨_, accepted, rfl⟩ : ∃ other, _ = Checked.accepted other ∧ other = f)
  simp only [Checked.exists_seq, Checked.exists_map] at parts
  obtain ⟨rules, -, options, -, placeholder, -, default, read, required, -, type, -, label, -,
    key, -, id, -, rfl⟩ := parts
  have given := accepts_scalar.optional showable read
  cases default with
  | none => exact List.forall_mem_nil _
  | some scalar => simpa [Field.integers] using given scalar rfl

/-- The integers of a section are those of its document. -/
theorem accepts_section :
    Accepts TemplateSection.read fun s =>
      ∀ i ∈ s.declared.flatMap Field.integers, Value.isShowableInt i = true := by
  apply accepts_readModel
  intro entries s showable accepted
  have parts := (⟨_, accepted, rfl⟩ : ∃ other, _ = Checked.accepted other ∧ other = s)
  simp only [Checked.exists_seq, Checked.exists_map] at parts
  obtain ⟨condition, -, style, -, columns, -, fields, read, content, -, title, -, kindName, -,
    id, -, rfl⟩ := parts
  have given := accepts_field.list.optional showable read
  rw [List.forall_mem_flatMap]
  cases fields with
  | none => exact List.forall_mem_nil _
  | some fs => exact given fs rfl

namespace Template

/-- The integers of a template are those of its document. -/
theorem accepts_template :
    Accepts Template.read fun t => ∀ i ∈ t.integers, Value.isShowableInt i = true := by
  apply accepts_readModel
  intro entries t showable accepted
  have parts := (⟨_, accepted, rfl⟩ : ∃ other, _ = Checked.accepted other ∧ other = t)
  simp only [Checked.exists_seq, Checked.exists_map] at parts
  obtain ⟨metadata, -, fields, readFields, sections, readSections, updatedAt, -, createdAt, -,
    category, -, description, -, version, -, name, -, id, -, rfl⟩ := parts
  have own := accepts_field.list.defaulted (List.forall_mem_nil _) showable readFields
  have others := accepts_section.list.defaulted (List.forall_mem_nil _) showable readSections
  simp only [integers, declaredFields, List.flatMap_append, List.forall_mem_append,
    List.forall_mem_flatMap] at others ⊢
  exact ⟨own, others⟩

variable {t : Template}

/-- A template that was loaded from a text has no integers that are too long to be shown. -/
theorem isShowableInt_of_loadText [Machine] {s : String} (loaded : (loadText s).result = .ok t) :
    ∀ i ∈ t.integers, Value.isShowableInt i = true := by
  unfold loadText loadRead at loaded
  split at loaded
  · cases loaded
  · rename_i entries read
    have showable := Json.isShowable_of_readText read
    unfold loadEntries at loaded
    split at loaded
    · cases loaded
    · rename_i accepted
      cases loaded
      exact accepts_template _ t showable accepted
  · cases loaded

end Template

/-- The built-in templates have no integers. -/
theorem Catalog.integers_of_find {id : String} {t : Template} (found : (find id).result = .ok t) :
    t.integers = [] := by
  have integerless : ∀ t ∈ templates, t.integers = [] := by decide
  unfold find at found
  split at found
  · rename_i held
    cases found
    exact integerless t (List.mem_of_find?_eq_some held)
  · cases found

end Stencil
