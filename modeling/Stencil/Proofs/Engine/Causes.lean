/-
# Why no document is made

Of a record there are three causes for which no document is made: a value that is shown or
checked has an integer of too many digits or is nested too deep, or a pattern is refused. Every
part of the work on a document fails for one of them only, and so does all of it.
-/

import Stencil.Engine.Basic
import Stencil.Proofs.Log.Trace

namespace Stencil

/-- The causes for which no document is made of a record. -/
inductive Failure.StopsDocument : Failure → Prop
  | tooManyDigits : StopsDocument .tooManyDigits
  | nestedTooDeep : StopsDocument .nestedTooDeep
  | patternRefused (refusal : Pattern.Refusal) : StopsDocument (.patternRefused refusal)

/-- A computation that fails does so for one of the causes for which no document is made. -/
def FailsAsDocument {α : Type} (x : Except Failure α) : Prop :=
  ∀ failure, x = .error failure → failure.StopsDocument

namespace FailsAsDocument

variable {α β : Type} {x : Except Failure α}

theorem ok (a : α) : FailsAsDocument (.ok a : Except Failure α) := nofun

theorem error {failure : Failure} (stops : failure.StopsDocument) :
    FailsAsDocument (.error failure : Except Failure α) := by
  intro other same
  obtain rfl := Except.error.inj same
  exact stops

theorem map {f : α → β} (h : FailsAsDocument x) : FailsAsDocument (x.map f) := by
  intro failure failed
  exact h failure (map_eq_error.mp failed)

theorem bind {next : α → Except Failure β} (h : FailsAsDocument x)
    (later : ∀ a, FailsAsDocument (next a)) : FailsAsDocument (x.bind next) := by
  intro failure failed
  rcases bind_eq_error.mp failed with first | ⟨a, -, second⟩
  · exact h failure first
  · exact later a failure second

theorem mapM {step : α → Except Failure β} (each : ∀ a, FailsAsDocument (step a)) (xs : List α) :
    FailsAsDocument (xs.mapM step) := by
  induction xs with
  | nil => exact ok []
  | cons a rest ih =>
      rw [List.mapM_cons]
      exact (each a).bind fun first => ih.bind fun others => ok (first :: others)

theorem traced {first : Traced α} {next : α → Traced β} (h : FailsAsDocument first.result)
    (later : ∀ a, FailsAsDocument (next a).result) : FailsAsDocument (first >>= next).result := by
  rw [Traced.result_bind]
  exact h.bind later

end FailsAsDocument

section Parts

variable [Machine] {data : Record}

theorem Value.failsAsDocument_display (v : Value) (occasion : Occasion) :
    FailsAsDocument (v.display occasion) := by
  unfold display
  split
  · exact .error .nestedTooDeep
  · split
    · exact .ok _
    · exact .error .tooManyDigits

namespace Placeholder

theorem Piece.failsAsDocument_resolve (p : Piece) : FailsAsDocument (p.resolve data) := by
  cases p with
  | literal c => exact .ok [c]
  | token t =>
      rw [resolve, Token.resolve]
      split
      · exact (Value.failsAsDocument_display _ _).map
      · exact .ok _

theorem failsAsDocument_resolvePieces (ps : List Piece) :
    FailsAsDocument (resolvePieces data ps) := by
  induction ps with
  | nil => exact .ok []
  | cons p rest ih =>
      rw [resolvePieces]
      cases first : p.resolve data with
      | error failure => exact .error (p.failsAsDocument_resolve failure first)
      | ok text =>
          cases others : resolvePieces data rest with
          | error failure => exact .error (ih failure others)
          | ok texts => exact .ok _

theorem failsAsDocument_substituteOptional (content : Option String) :
    FailsAsDocument (substituteOptional content data) :=
  (failsAsDocument_resolvePieces _).map

end Placeholder

namespace Render

theorem failsAsDocument_filledLine (occasion : Occasion) (f : Field) :
    FailsAsDocument (filledLine occasion data f) :=
  (Value.failsAsDocument_display _ _).map

theorem failsAsDocument_signatureLines (blank : String) (fields : List Field) :
    FailsAsDocument (signatureLines blank fields data) := by
  apply FailsAsDocument.mapM
  intro f
  split
  · exact failsAsDocument_filledLine _ f
  · exact .ok _

theorem failsAsDocument_tableRows (source : Value) (columns : List Column) :
    FailsAsDocument (tableRows source columns) := by
  apply FailsAsDocument.mapM
  intro row
  apply FailsAsDocument.mapM
  intro column
  rw [cell]
  split
  · exact Value.failsAsDocument_display _ _
  · exact .ok ""

theorem Renderer.failsAsDocument_render (r : Renderer) (s : TemplateSection) :
    FailsAsDocument (r.render s data).result := by
  have substituted (text? : Option String) :
      FailsAsDocument (Traced.ofExcept (Placeholder.substituteOptional text? data)).result :=
    Placeholder.failsAsDocument_substituteOptional text?
  cases r with
  | header size | body size | footer size => exact (substituted _).traced fun text => .ok _
  | separator divider => exact .ok _
  | detail size =>
      refine FailsAsDocument.traced (FailsAsDocument.mapM (failsAsDocument_filledLine _) _) ?_
      intro lines
      refine (substituted s.title).traced fun title => ?_
      exact (substituted s.content).traced fun text => .ok _
  | signature blank =>
      refine FailsAsDocument.traced (failsAsDocument_signatureLines blank _) fun lines => ?_
      exact (substituted s.title).traced fun title => .ok _
  | table readsLegacyRows =>
      rw [render]
      split
      · exact .ok _
      · refine FailsAsDocument.traced (.ok ()) fun _ => ?_
        refine (substituted s.title).traced fun title => ?_
        exact FailsAsDocument.traced (failsAsDocument_tableRows _ _) fun rows => .ok _

namespace Registry

theorem failsAsDocument_renderSections (registry : Registry) (sections : List TemplateSection) :
    FailsAsDocument (registry.renderSections data sections).result := by
  induction sections with
  | nil => exact .ok []
  | cons s rest ih =>
      have first : FailsAsDocument (registry.renderSection s data).result := by
        rw [renderSection]
        split
        · split
          · exact Renderer.failsAsDocument_render _ s
          · exact .ok _
        · exact .ok _
      exact first.traced fun node? => ih.traced fun nodes => .ok _

end Registry

end Render

namespace Field

theorem failsAsDocument_rangeViolations (f : Field) (v : Value) :
    FailsAsDocument (f.rangeViolations v) := by
  unfold rangeViolations
  split
  · exact .ok []
  split
  · exact .ok []
  split
  · split <;> exact .ok _
  split
  · exact (Value.failsAsDocument_display _ _).map
  · exact .ok []

theorem failsAsDocument_patternViolations (f : Field) (v : Value) :
    FailsAsDocument (f.patternViolations v).result := by
  unfold patternViolations
  split
  · exact .ok []
  split
  · exact .ok []
  split
  · exact .error .nestedTooDeep
  split
  · exact .error (.patternRefused _)
  · exact .ok []
  · refine (Value.failsAsDocument_display _ _).bind fun shown => ?_
    split
    · exact .error (.patternRefused _)
    · exact .ok _
    · exact .ok _

theorem failsAsDocument_optionViolations (f : Field) (v : Value) :
    FailsAsDocument (f.optionViolations v) := by
  unfold optionViolations
  dsimp only
  split
  · exact .ok []
  · exact (FailsAsDocument.mapM (fun _ => Value.failsAsDocument_display _ _) _).map

theorem failsAsDocument_violations (f : Field) : FailsAsDocument (f.violations data).result := by
  unfold violations
  dsimp only
  split
  · refine FailsAsDocument.traced (f.failsAsDocument_rangeViolations _) fun range => ?_
    refine (f.failsAsDocument_patternViolations _).traced fun pattern => ?_
    exact FailsAsDocument.traced (f.failsAsDocument_optionViolations _) fun options => .ok _
  · exact .ok []

end Field

theorem failsAsDocument_brokenRules (fields : List Field) :
    FailsAsDocument (brokenRules data fields).result := by
  induction fields with
  | nil => exact .ok []
  | cons f rest ih =>
      exact f.failsAsDocument_violations.traced fun first => ih.traced fun _ => .ok _

/-- No document is made of a record for these causes only. -/
theorem Engine.failsAsDocument_generate (e : Engine) (t : Template) (data : Record) :
    FailsAsDocument (e.generate t (.object data.entries)).result := by
  refine FailsAsDocument.traced (.ok data) fun given => ?_
  refine FailsAsDocument.traced (.ok t.discovery) fun discovery => ?_
  refine (failsAsDocument_brokenRules _).traced fun violations => ?_
  refine FailsAsDocument.traced ?_ fun nodes => FailsAsDocument.traced (.ok ()) fun _ => .ok _
  exact (e.renderer.item.registry.failsAsDocument_renderSections _).traced fun nodes => .ok _

end Parts

end Stencil
