/-
# Loading templates

A template is loaded from JSON text, from the bytes of one, or from a decoded
document. A document that does not fit the schema is refused as a whole.
-/

import Stencil.Json.Reader
import Stencil.Log.Trace
import Stencil.Template.Decode

namespace Stencil.Template

/-- Loads a decoded object. -/
def loadEntries (entries : List (String × Value)) : Traced Template :=
  match Template.read (.object entries) with
  | .refused issues => do
    Traced.note (.templateRefused issues.length)
    .fail (.templateRefused issues)
  | .accepted template => do
    Traced.note (.templateLoaded template.id template.version template.sections.length)
    pure template

/-- The failure for a text that is not JSON. -/
def textFailure : Json.Error → Failure
  | .malformed fault position => .sourceMalformed fault position
  | .tooManyDigits count => .numeralTooLong count

/-- Loads what a JSON text was read as. -/
def loadRead : Except Json.Error Value → Traced Template
  | .error error => .fail (textFailure error)
  | .ok (.object entries) => loadEntries entries
  | .ok _ => .fail .sourceNotObject

/-- Loads a JSON text. -/
def loadText [Machine] (s : String) : Traced Template := loadRead (Json.readText s)

/-- Loads the bytes of a JSON text, whose encoding is recognised by their zeros and
by a mark in front. -/
def loadBytes [Machine] (bytes : List UInt8) : Traced Template :=
  match Text.decodeDetected bytes with
  | .error error => .fail (.sourceUndecodable error)
  | .ok cs => loadRead (Json.readChars cs)

/-- Loads a value: a text is JSON, and an object is a decoded document. -/
def load [Machine] : Value → Traced Template
  | .text s => loadText s
  | .object entries => loadEntries entries
  | v => .fail (.sourceUnsupported v.typeName)

end Stencil.Template
