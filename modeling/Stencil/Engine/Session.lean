/-
# Sessions

In a session one workshop serves a sequence of requests. Some go to the workshop
itself, others to the engine of the session, which may be replaced.
-/

import Stencil.Engine.Basic

namespace Stencil

/-- A workshop with an engine. -/
structure Session where
  workshop : Workshop
  engine : Engine

namespace Session

/-- What can be asked for in a session. -/
inductive Request
  | generate (template : Traced Template) (data : Value)
  | prepare (template : Traced Template) (data : Value)
  | renderer (kind : Value)
  | documentRenderer
  | renderSection (kind : Value) (part : Except Failure TemplateSection) (data : Value)
  | dispatch (part : Except Failure TemplateSection) (data : Value)
  | clear
  | replaceEngine (settings : Option (Traced Settings))

/-- What a request is answered with. -/
inductive Reply
  | document (d : Document)
  | data (record : Record)
  | renderer (made : Made Render.Renderer)
  | documentRenderer (made : Made Render.DocumentRenderer)
  | node (node? : Option Render.Node)
  | done
  | engineReplaced (fillsDefaults : Bool)

/-- Does something in the workshop of a session. -/
def inWorkshop {α : Type} (x : Stateful Workshop α) : Stateful Session α := fun s =>
  let (result, workshop) := x.run s.workshop
  (result, { s with workshop })

/-- Answers a request. -/
def answer : Request → Stateful Session Reply
  | .generate template data => do
    let s ← Stateful.state
    Reply.document <$> Stateful.ofTraced (template >>= fun t => s.engine.generate t data)
  | .prepare template data => do
    let s ← Stateful.state
    let t ← Stateful.ofTraced template
    let record ← Stateful.ofTraced (.ofExcept data.toRecord)
    pure (.data (s.engine.prepare t record))
  | .renderer kind => do
    let kind ← Stateful.ofTraced (.ofExcept (Workshop.kindOf kind))
    Reply.renderer <$> inWorkshop (Workshop.renderer kind)
  | .documentRenderer => Reply.documentRenderer <$> inWorkshop Workshop.documentRenderer
  | .renderSection kind part data => do
    let kind ← Stateful.ofTraced (.ofExcept (Workshop.kindOf kind))
    let made ← inWorkshop (Workshop.renderer kind)
    let part ← Stateful.ofTraced (.ofExcept part)
    Reply.node <$> Stateful.ofTraced (made.item.renderWith part data)
  | .dispatch part data => do
    let made ← inWorkshop Workshop.documentRenderer
    let part ← Stateful.ofTraced (.ofExcept part)
    Reply.node <$> Stateful.ofTraced (made.item.registry.renderSectionWith part data)
  | .clear => do
    inWorkshop Workshop.clear
    pure .done
  | .replaceEngine settings => do
    let own ← match settings with
      | none => pure none
      | some loading => some <$> Stateful.ofTraced loading
    let engine ← inWorkshop (Engine.build own)
    Stateful.change fun s => { s with engine }
    pure (.engineReplaced engine.fillsDefaults)

/-- Opens a session over a new workshop. -/
def start (settings : Settings) : Traced Session :=
  let (engine, workshop) := (Engine.build none).run { settings }
  engine.andThen fun engine => pure { workshop, engine }

end Session

end Stencil
