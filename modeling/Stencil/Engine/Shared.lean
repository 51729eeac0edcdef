/-
# Shared settings and workshop

Callers that bring no settings share one settings object and one workshop. Both are
made when they are first asked for, from the environment of that moment. The workshop
keeps the settings that it was made with. Every settings object sets the level of the
library's log; the level of the log around it is set by the first one only.
-/

import Stencil.Engine.Basic
import Stencil.Settings.Load

namespace Stencil

/-- The shared workshop, with the settings object that it was made with. -/
structure SharedWorkshop where
  serial : Nat
  settings : Made Settings
  workshop : Workshop

/-- What is shared, and the environment that it is made from. The environment file is what
reading it comes to. -/
structure Shared where
  environment : Environment := []
  file : Except Failure (Option (List Char)) := .ok none
  level : Level := .debug
  outerLevel : Option Level := none
  settings : Option (Made Settings) := none
  workshop : Option SharedWorkshop := none
  nextSerial : Nat := 0

namespace Shared

/-- The next serial number. -/
def serial : Stateful Shared Nat := do
  let s ← Stateful.state
  Stateful.change fun s => { s with nextSerial := s.nextSerial + 1 }
  pure s.nextSerial

/-- The level of a log for which none was set. -/
def standardLevel : Level := .warning

/-- Loads the settings that the environment of this moment asks for. -/
def loadSettings (s : Shared) : Traced Settings := do
  let file ← Traced.ofExcept s.file
  Settings.load { environment := s.environment, file }

/-- The shared settings. Settings that were loaded stay, even if the level that they
ask for is refused. -/
def fetchSettings : Stateful Shared (Made Settings) := do
  let s ← Stateful.state
  match s.settings with
  | some made => pure made
  | none =>
    let settings ← Stateful.ofTraced s.loadSettings
    let made : Made Settings := ⟨← serial, settings⟩
    let outerLevel := s.outerLevel.getD (settings.level.toOption.getD standardLevel)
    Stateful.change fun s => { s with settings := some made, outerLevel := some outerLevel }
    let level ← Stateful.ofTraced (.ofExcept settings.level)
    Stateful.change fun s => { s with level }
    pure made

/-- Forgets the shared settings. -/
def resetSettings : Stateful Shared Unit :=
  Stateful.change fun s => { s with settings := none }

/-- The shared workshop. -/
def fetchWorkshop : Stateful Shared SharedWorkshop := do
  match (← Stateful.state).workshop with
  | some found => pure found
  | none =>
    let settings ← fetchSettings
    let made : SharedWorkshop := ⟨← serial, settings, { settings := settings.item }⟩
    Stateful.change fun s => { s with workshop := some made }
    pure made

/-- An engine with the renderers of the shared workshop. -/
def buildEngine : Stateful Shared Engine := do
  let found ← fetchWorkshop
  let (engine, workshop) := (Engine.build none).run found.workshop
  Stateful.change fun s => { s with workshop := some { found with workshop } }
  Stateful.ofTraced engine

/-- What can be asked for. -/
inductive Request
  | assign (name value : String)
  | remove (name : String)
  | placeFile (file : Except Failure (Option (List Char)))
  | settings
  | reset
  | workshop
  | generate (template : Traced Template) (data : Value)

/-- What a request is answered with. -/
inductive Reply
  | done
  | settings (made : Made Settings) (level : Level)
  | workshop (found : SharedWorkshop)
  | document (d : Document)

/-- Answers a request. -/
def answer : Request → Stateful Shared Reply
  | .assign name value => do
    Stateful.change fun s => { s with environment := s.environment.assign name value }
    pure .done
  | .remove name => do
    Stateful.change fun s => { s with environment := s.environment.remove name }
    pure .done
  | .placeFile file => do
    Stateful.change fun s => { s with file }
    pure .done
  | .settings => do
    let made ← fetchSettings
    pure (.settings made (← Stateful.state).level)
  | .reset => do
    resetSettings
    pure .done
  | .workshop => Reply.workshop <$> fetchWorkshop
  | .generate template data => do
    let engine ← buildEngine
    Reply.document <$> Stateful.ofTraced (template >>= fun t => engine.generate t data)

/-- The level in force. -/
def levelInForce (s : Shared) : Level :=
  if s.level = .notSet then s.outerLevel.getD standardLevel else s.level

/-- The events that pass the level in force. -/
def heard (s : Shared) (events : List Event) : List Event :=
  events.filter fun e => e.level.passes s.levelInForce

end Shared

end Stencil
