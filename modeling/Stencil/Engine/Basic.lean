/-
# Engines

An engine makes documents. It takes its renderers from a workshop and keeps them,
even if the workshop forgets them later. Whether defaults are filled in may be
settled for the engine alone.
-/

import Stencil.Engine.Document
import Stencil.Engine.Workshop
import Stencil.Field.Defaults
import Stencil.Field.Required

namespace Stencil

/-- An engine. -/
structure Engine where
  fillsDefaults : Bool
  renderer : Made Render.DocumentRenderer

namespace Engine

/-- An engine with the renderers of a workshop, under settings of its own or those of
the workshop. -/
def build [Machine] (own : Option Settings) : Stateful Workshop Engine := do
  let w ← Stateful.state
  let renderer ← Workshop.documentRenderer
  pure ⟨(own.getD w.settings).fillsDefaults, renderer⟩

/-- The record that a document is made from. -/
def prepare (e : Engine) (t : Template) (data : Record) : Record :=
  if e.fillsDefaults then data.withDefaults t.declaredFields else data

/-- Makes a document. Missing and broken values are reported and stop nothing. -/
def generate [Machine] (e : Engine) (t : Template) (data : Value) : Traced Document := do
  let given ← Traced.ofExcept data.asOptionalData
  let discovery ← t.discover
  let resolved := e.prepare t given
  let missing := missingKeys discovery.fields resolved
  let violations ← brokenRules resolved discovery.fields
  let nodes ← e.renderer.item.registry.render t resolved
  Traced.notes (if missing.isEmpty then [] else [.fieldsMissing t.id missing])
  pure ⟨nodes, discovery.fields, resolved, missing, violations, discovery.conflicts⟩

end Engine

end Stencil
