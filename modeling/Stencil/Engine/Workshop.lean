/-
# The workshop

A workshop makes renderers from its settings and keeps them. Each is made once, when
it is first asked for, until the workshop forgets what it has made. Things that were
made carry serial numbers, so that two of them can be told apart even if they are
equal.
-/

import Stencil.Log.Stateful
import Stencil.Render.Document
import Stencil.Settings.Basic

namespace Stencil

/-- A thing that was made, with its serial number. -/
structure Made (α : Type) where
  serial : Nat
  item : α

namespace Render

/-- The renderer of a kind that settings describe. -/
def Renderer.ofSettings [Machine] (s : Settings) : SectionKind → Except Failure Renderer
  | .header => .ok (.header (.float s.headerSize))
  | .body => .ok (.body (.float s.bodySize))
  | .footer => .ok (.footer (.float s.footerSize))
  | .detail => .ok (.detail (.float s.headingSize))
  | .separator => (divider "-" s.separatorWidth).map .separator
  | .table => .ok (.table s.readsLegacyRows)
  | .signature => .ok (.signature s.signatureBlank)

/-- A renderer of whole documents, with the renderers that it hands sections to. -/
structure DocumentRenderer where
  parts : List (Made Renderer)
  registry : Registry

end Render

/-- The settings of a workshop and what it has made. -/
structure Workshop where
  settings : Settings
  sections : List (Made Render.Renderer) := []
  document : Option (Made Render.DocumentRenderer) := none
  nextSerial : Nat := 0

namespace Workshop

/-- The renderer of a kind that was made before. -/
def kept? (w : Workshop) (kind : SectionKind) : Option (Made Render.Renderer) :=
  w.sections.find? fun made => made.item.kind == kind

/-- The kind of a name. Anything else is refused with the names of all kinds. -/
def kindOf (v : Value) : Except Failure SectionKind :=
  let found := match v with
    | .text s => SectionKind.ofName? s
    | _ => none
  match found with
  | some kind => .ok kind
  | none =>
    v.messageText.bind fun shown =>
      .error (.kindUnknown shown (SectionKind.all.map SectionKind.name))

/-- The renderer of a kind. -/
def renderer [Machine] (kind : SectionKind) : Stateful Workshop (Made Render.Renderer) := do
  let w ← Stateful.state
  match w.kept? kind with
  | some made => pure made
  | none =>
    Stateful.note (.rendererBuilt kind)
    let item ← Stateful.ofTraced (.ofExcept (Render.Renderer.ofSettings w.settings kind))
    let made : Made Render.Renderer := ⟨w.nextSerial, item⟩
    Stateful.change fun w =>
      { w with sections := w.sections ++ [made], nextSerial := w.nextSerial + 1 }
    pure made

/-- The renderers of kinds one after the other. -/
def renderers [Machine] : List SectionKind → Stateful Workshop (List (Made Render.Renderer))
  | [] => pure []
  | kind :: rest => do
    let first ← renderer kind
    let others ← renderers rest
    pure (first :: others)

/-- The renderer of whole documents. -/
def documentRenderer [Machine] : Stateful Workshop (Made Render.DocumentRenderer) := do
  match (← Stateful.state).document with
  | some made => pure made
  | none =>
    Stateful.note .documentRendererBuilt
    let parts ← renderers SectionKind.all
    let registry ← Stateful.ofTraced (.ofExcept (Render.Registry.ofList (parts.map Made.item)))
    let made : Made Render.DocumentRenderer :=
      ⟨(← Stateful.state).nextSerial, ⟨parts, registry⟩⟩
    Stateful.change fun w =>
      { w with document := some made, nextSerial := w.nextSerial + 1 }
    pure made

/-- Forgets what was made. -/
def clear : Stateful Workshop Unit := do
  Stateful.change fun w => { w with sections := [], document := none }
  Stateful.note .renderersForgotten

end Workshop

end Stencil
