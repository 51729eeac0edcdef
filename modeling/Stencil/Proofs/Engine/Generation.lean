/-
# What a document is made of

An engine looks at the template and at one prepared record. The missing keys, the broken
rules and the nodes of a document are all those of this record, which the document keeps.
-/

import Stencil.Engine.Basic
import Stencil.Proofs.Render.Order

namespace Stencil.Engine

/-- The parts of a document that an engine makes of a template and a record. -/
structure Makes [Machine] (e : Engine) (t : Template) (data : Record) (d : Document) : Prop where
  data_eq : d.data = e.prepare t data
  fields_eq : d.fields = t.discovery.fields
  conflicts_eq : d.conflicts = t.discovery.conflicts
  missing_eq : d.missing = missingKeys d.fields d.data
  violations_eq : (brokenRules d.data d.fields).result = .ok d.violations
  nodes_eq : (e.renderer.item.registry.renderSections d.data t.sections).result = .ok d.nodes

variable {e : Engine} {t : Template} {data : Record} {d : Document}

/-- Data of any type are as good as the record that they are, if they are one. -/
theorem result_generate [Machine] (e : Engine) (t : Template) (v : Value) :
    (e.generate t v).result =
      v.asOptionalData.bind fun record => (e.generate t (.object record.entries)).result := by
  rw [generate, Traced.result_bind]
  rfl

theorem makes_of_generate [Machine]
    (made : (e.generate t (.object data.entries)).result = .ok d) :
    e.Makes t data d := by
  simp only [generate, Value.asOptionalData, Value.asData, Traced.ofExcept_ok, pure_bind,
    Traced.result_bind_eq_ok] at made
  obtain ⟨discovery, found, violations, broken, nodes, rendered, _, -, kept⟩ := made
  obtain rfl : t.discovery = discovery := by simpa [Template.discover] using found
  rw [Render.Registry.result_render] at rendered
  cases kept
  exact ⟨rfl, rfl, rfl, rfl, broken, rendered⟩

/-- A document is made of a record exactly when the prepared record can be checked and rendered. -/
theorem hasResult_generate_iff [Machine] :
    HasResult (e.generate t (.object data.entries)).result ↔
      HasResult (brokenRules (e.prepare t data) t.discovery.fields).result ∧
        HasResult (e.renderer.item.registry.render t (e.prepare t data)).result := by
  have discovered : t.discover.result = .ok t.discovery := rfl
  simp only [generate, Value.asOptionalData, Value.asData, Traced.ofExcept_ok, pure_bind]
  rw [Traced.result_bind, discovered]
  show HasResult (Traced.result _) ↔ _
  refine Traced.hasResult_bind_iff .rfl fun violations => ?_
  apply Traced.hasResult_bind_of_forall
  intro nodes
  simp

end Stencil.Engine
