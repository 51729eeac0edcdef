/-
# Rendering documents

The sections of a template are rendered in their order. A section that its condition
hides is passed over, and so is one of an unknown kind.
-/

import Stencil.Render.Section
import Stencil.Value.Input

namespace Stencil

/-- The keys that decide whether a section is shown. An empty key sets no condition. -/
def TemplateSection.conditionKeys (s : TemplateSection) : List String :=
  match s.condition with
  | none => []
  | some c => (c.showIf.bind Render.nonEmpty?).toList ++ (c.hideIf.bind Render.nonEmpty?).toList

/-- Whether a record shows a section: a key to show it by has to hold, and a key to
hide it by must not. An empty key sets no condition. -/
def TemplateSection.isVisible (s : TemplateSection) (data : Record) : Bool :=
  match s.condition with
  | none => true
  | some c =>
    (c.showIf.bind Render.nonEmpty?).all (fun key => (data.value key).isTruthy) &&
      (c.hideIf.bind Render.nonEmpty?).all fun key => !(data.value key).isTruthy

/-- Whether data of any type show a section. -/
def TemplateSection.isVisibleWith (s : TemplateSection) (data : Value) : Except Failure Bool :=
  (data.asDataFor (.lookups s.conditionKeys)).map s.isVisible

namespace Render

/-- A renderer for every kind of section. -/
structure Registry where
  renderer : SectionKind → Renderer
  kind_renderer : ∀ kind, (renderer kind).kind = kind

namespace Registry

/-- The renderers that nothing is configured for. -/
def standard : Registry := ⟨.standard, Renderer.kind_standard⟩

/-- The renderer of a kind in a list. -/
def find? (renderers : List Renderer) (kind : SectionKind) : Option Renderer :=
  renderers.find? fun r => r.kind == kind

/-- The kinds that no renderer of a list is for. -/
def missing (renderers : List Renderer) : List SectionKind :=
  SectionKind.all.filter fun kind => (find? renderers kind).isNone

theorem kind_of_find? {renderers : List Renderer} {kind : SectionKind} {r : Renderer}
    (h : find? renderers kind = some r) : r.kind = kind := by
  simpa [find?] using List.find?_some h

/-- The registry of a list of renderers, which has to have one for each kind. -/
def ofList (renderers : List Renderer) : Except Failure Registry :=
  if (missing renderers).isEmpty then
    .ok
      { renderer := fun kind => (find? renderers kind).getD (.standard kind)
        kind_renderer := fun kind => by
          cases h : find? renderers kind with
          | none => simp
          | some r => simpa using kind_of_find? h }
  else .error (.renderersMissing ((missing renderers).map SectionKind.name))

/-- Renders a section, unless it is hidden or of an unknown kind. -/
def renderSection [Machine] (registry : Registry) (s : TemplateSection) (data : Record) :
    Traced (Option Node) :=
  if s.isVisible data then
    match s.kind? with
    | some kind => (registry.renderer kind).render s data
    | none => do
      Traced.note (.kindUnsupported s.id s.kindName)
      pure none
  else do
    Traced.note (.sectionHidden s.id)
    pure none

/-- What is done first with the data of a section. -/
def dataUse (registry : Registry) (s : TemplateSection) : Use :=
  if s.conditionKeys.isEmpty then
    s.kind?.elim .nothing fun kind => (registry.renderer kind).dataUse s
  else .lookup

/-- Renders a section with data of any type, unless it is hidden or of an unknown
kind. -/
def renderSectionWith [Machine] (registry : Registry) (s : TemplateSection) (data : Value) :
    Traced (Option Node) := do
  let record ← Traced.ofExcept (data.asDataFor (registry.dataUse s))
  registry.renderSection s record

/-- Renders sections one after the other. -/
def renderSections [Machine] (registry : Registry) (data : Record) : List TemplateSection →
    Traced (List Node)
  | [] => pure []
  | s :: rest => do
    let node? ← registry.renderSection s data
    let nodes ← renderSections registry data rest
    pure (node?.toList ++ nodes)

/-- Renders a template. -/
def render [Machine] (registry : Registry) (t : Template) (data : Record) : Traced (List Node) := do
  let nodes ← registry.renderSections data t.sections
  Traced.note (.templateRendered t.id nodes.length t.sections.length)
  pure nodes

/-- Renders a value in place of sections that were checked. Only the empty list of
sections has a rendering. -/
def renderUnchecked [Machine] (registry : Registry) (id : String) (sections data : Value) :
    Traced (List Node) :=
  match sections with
  | .list items => do
    let record ← Traced.ofExcept data.asData
    match items with
    | [] => registry.render { id, name := id } record
    | first :: _ => .fail (.notSection first.typeName)
  | v => .fail (.sectionsNotList v.typeName)

end Registry

end Render

end Stencil
