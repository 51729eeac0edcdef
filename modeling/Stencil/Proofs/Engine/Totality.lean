/-
# When a document can be made

Missing values and broken rules are reported and stop nothing, but two things do stop
the making of a document: a value that is to be shown or read has no text, because an
integer in it has too many digits or because it is nested too deep, and a pattern that is
nested too deep or refused rather than passed over. Nothing else does.
-/

import Stencil.Proofs.Engine.Generation
import Stencil.Proofs.Field.Checkable
import Stencil.Proofs.Render.Showable
import Stencil.Template.Load

namespace Stencil.Engine

/-- On any machine a document is made from a record exactly when, in the prepared record, the
value of every field found can be checked and every value that a section shows has a text
where it is shown. -/
theorem generate_ok_iff [Machine] (e : Engine) (t : Template) (data : Record) :
    (∃ d, (e.generate t (.object data.entries)).result = .ok d) ↔
      (∀ f ∈ t.discovery.fields, f.IsCheckable ((e.prepare t data).value f.key)) ∧
      ∀ s ∈ t.sections, ∀ shown ∈ e.renderer.item.registry.shownValues s (e.prepare t data),
        shown.2.hasText shown.1 = true := by
  rw [← hasResult_brokenRules, ← Render.Registry.hasResult_render]
  exact hasResult_generate_iff

/-- A template that loads, a small text as data, and every engine fails: the pattern
of the field repeats a letter more often than a pattern may say. -/
theorem generate_fails_on_refused_pattern :
    let pattern := "a\x7b4294967295\x7d"
    let source : Value := .object
      [("id", .text "t"), ("name", .text "n"), ("sections", .list []),
       ("fields", .list [.object
         [("id", .text "f"), ("key", .text "k"), ("label", .text "L"), ("type", .text "text"),
          ("validation", .object [("pattern", .text pattern)])]])]
    let t : Template :=
      { id := "t", name := "n",
        fields :=
          [{ id := "f", key := "k", label := "L", rules := some { pattern := some pattern } }] }
    (Template.load source).result = .ok t ∧
      ∀ e : Engine, (e.generate t (.object [("k", .text "x")])).result =
        .error (.patternRefused .repeatTooLarge) := by
  intro pattern source t
  have loaded : (Template.load source).result = .ok t := by
    have accepted : (Template.load source).result.toOption = some t := by decide +kernel
    cases outcome : (Template.load source).result with
    | error failure => simp [outcome, Except.toOption] at accepted
    | ok other => simpa [outcome, Except.toOption] using accepted
  refine ⟨loaded, fun e => ?_⟩
  have prepared : e.prepare t ⟨[("k", .text "x")]⟩ = ⟨[("k", .text "x")]⟩ := by
    simp [prepare, t, Template.declaredFields, Record.withDefaults, Record.fill]
  have found : t.discovery = ⟨t.fields, []⟩ := by decide +kernel
  have broken : (brokenRules ⟨[("k", .text "x")]⟩ t.fields).result =
      .error (.patternRefused .repeatTooLarge) := by decide +kernel
  simp [generate, Value.asOptionalData, Value.asData, Template.discover, prepared, found, broken,
    Traced.result_bind, Except.bind]

end Stencil.Engine
