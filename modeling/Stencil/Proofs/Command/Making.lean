/-
# How a run makes its document

A run builds one engine in a workshop of its own, and the settings describe that engine
completely. So the document of a run is made by the engine of its settings: it renders by
their sizes and texts, and fills in defaults if they say so. Those sizes are binary numbers, so
the summary of the document is read back from what the run prints of it.
-/

import Stencil.Command.Run
import Stencil.Proofs.Engine.Generation
import Stencil.Proofs.Engine.Workshop
import Stencil.Proofs.Render.Faithful

namespace Stencil

/-- The sizes that settings give to running text. -/
def Settings.sizes (settings : Settings) : List Binary64 :=
  [settings.headerSize, settings.headingSize, settings.bodySize, settings.footerSize]

variable {settings : Settings}

namespace Engine

/-- What an engine does is what settings say. -/
structure Obeys [Machine] (e : Engine) (settings : Settings) : Prop where
  fillsDefaults_eq : e.fillsDefaults = settings.fillsDefaults
  renderer_eq : ∀ kind,
    Render.Renderer.ofSettings settings kind = .ok (e.renderer.item.registry.renderer kind)

/-- The engine that settings describe does what they say. -/
theorem obeys_of_ofSettings [Machine] {e : Engine} (described : ofSettings settings none = .ok e) :
    e.Obeys settings := by
  obtain ⟨document, made, rfl⟩ := map_eq_ok.mp described
  exact ⟨rfl, Render.DocumentRenderer.renderer_of_ofSettings made⟩

/-- The style that a renderer starts from has a size of the settings and no margins. -/
theorem Obeys.defaultStyle [Machine] {e : Engine} (obeys : e.Obeys settings) {kind : SectionKind}
    {style : Render.Style}
    (start : style ∈ (e.renderer.item.registry.renderer kind).defaultStyle?) :
    ∃ x ∈ settings.sizes,
      style.size = .float x ∧ style.marginTop = none ∧ style.marginBottom = none := by
  have described := obeys.renderer_eq kind
  generalize e.renderer.item.registry.renderer kind = r at described start
  cases kind with
  | separator =>
      obtain ⟨text, -, rfl⟩ := map_eq_ok.mp described
      cases start
  | table | signature =>
      cases described
      cases start
  | header | body | footer | detail =>
      cases described
      cases start
      exact ⟨_, by simp [Settings.sizes], rfl, rfl, rfl⟩

end Engine

namespace Command

variable {t : Template} {data : Value} {d : Document}

/-- A run makes what the engine that its settings describe makes. -/
theorem result_makeDocument [Machine] (settings : Settings) (t : Template) (data : Value) :
    (makeDocument settings t data).result =
      (Engine.ofSettings settings none).bind fun e => (e.generate t data).result := by
  have described := (Workshop.gives_build settings none _ (Workshop.follows_new settings)).1
  rw [makeDocument, Traced.result_bind, ← described]
  show (Stateful.outcome (Engine.build none) { settings }).1.bind _ = _
  cases (Stateful.outcome (Engine.build none) { settings }).1 <;> rfl

/-- The document of a run is made of a record by an engine that does what the settings say. -/
theorem makes_of_makeDocument [Machine] (made : (makeDocument settings t data).result = .ok d) :
    ∃ (e : Engine) (record : Record),
      e.Obeys settings ∧ data.asOptionalData = .ok record ∧ e.Makes t record d := by
  rw [result_makeDocument] at made
  obtain ⟨e, described, generated⟩ := bind_eq_ok.mp made
  rw [Engine.result_generate] at generated
  obtain ⟨record, held, generated⟩ := bind_eq_ok.mp generated
  exact ⟨e, record, Engine.obeys_of_ofSettings described, held, Engine.makes_of_generate generated⟩

/-- Nothing of the summary of a run's document is lost in print. -/
theorem isFaithful_summary_of_makeDocument [Machine]
    (made : (makeDocument settings t data).result = .ok d) : d.summary.IsFaithful := by
  obtain ⟨e, record, obeys, -, makes⟩ := makes_of_makeDocument made
  apply Document.isFaithful_summary
  intro style mem
  rw [Render.Registry.styles_of_renderSections makes.nodes_eq, List.mem_filterMap] at mem
  obtain ⟨s, -, held⟩ := mem
  unfold Render.Registry.style? at held
  split at held
  · obtain ⟨kind, -, own⟩ := Option.bind_eq_some_iff.mp held
    refine Render.Renderer.isBinary_styleOf ?_ style own
    intro start begins
    obtain ⟨x, -, size, top, bottom⟩ := obeys.defaultStyle begins
    exact ⟨by rw [size]; rfl, by simp [top], by simp [bottom]⟩
  · cases held

/-- The summary of a run's document is read back from what is printed of it. -/
theorem readText_printed_summary [Machine]
    (made : (makeDocument settings t data).result = .ok d) :
    Json.readText (printed d.summary) = .ok d.summary := by
  have lineEnd : ∀ c ∈ ['\n'], Json.isGap c = true := List.forall_mem_singleton.mpr rfl
  exact Json.readText_printAt_of_isFaithful (isFaithful_summary_of_makeDocument made) lineEnd

end Command

end Stencil
