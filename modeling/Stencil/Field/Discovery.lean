/-
# Discovering fields

The editable fields of a template are the ones it declares, the ones its texts refer
to, and one for the rows of every table. All of them form one list of candidates, and
the first candidate of a key wins. A later candidate that was declared with another
type is a conflict.
-/

import Stencil.Log.Trace
import Stencil.Placeholder

namespace Stencil

/-- Where a field comes from. -/
inductive Origin
  | template
  | inSection (id : String)
  | mentioned
  | table (id : String)
  deriving DecidableEq, Repr

/-- The name of an origin. -/
def Origin.name : Origin → String
  | .template => "template"
  | .inSection id => "section:" ++ id
  | .mentioned => "placeholder"
  | .table id => "table:" ++ id

/-- A field with its origin. -/
structure Candidate where
  field : Field
  origin : Origin
  deriving DecidableEq, Repr

/-- The field for a key that a text refers to. -/
def Field.ofMention (key : String) : Field :=
  { id := "placeholder-" ++ key, key := key, label := Placeholder.label key }

/-- A text that is not empty, or another one in its place. -/
def nonEmptyOr (text? : Option String) (other : String) : String :=
  match text? with
  | some text => if text = "" then other else text
  | none => other

namespace TemplateSection

/-- The keys that the texts of a section refer to: those of its content, then those
of its title. -/
def mentionedKeys (s : TemplateSection) : List String :=
  Placeholder.keys (s.content.getD "") ++ Placeholder.keys (s.title.getD "")

/-- The field for the rows of a table section. -/
def rowsField (s : TemplateSection) : Field :=
  { id := s.id, key := s.id, label := nonEmptyOr s.title "Table Data", type := .table }

/-- Whether the section is a table with columns. -/
def hasRows (s : TemplateSection) : Bool :=
  s.kind? = some .table && !s.columnList.isEmpty

end TemplateSection

/-- All candidates of a template in order of precedence. -/
def Template.candidates (t : Template) : List Candidate :=
  t.fields.map (fun field => ⟨field, .template⟩) ++
  t.sections.flatMap (fun s => s.declared.map fun field => ⟨field, .inSection s.id⟩) ++
  t.sections.flatMap (fun s => s.mentionedKeys.map fun key => ⟨.ofMention key, .mentioned⟩) ++
  (t.sections.filter TemplateSection.hasRows).map fun s => ⟨s.rowsField, .table s.id⟩

/-- Two declarations of a key with different types. -/
structure Conflict where
  kept : Field
  ignored : Field
  origin : Origin
  deriving DecidableEq, Repr

/-- The key that two fields compete for. -/
def Conflict.key (c : Conflict) : String := c.ignored.key

/-- The event for a conflict. -/
def Conflict.toEvent (c : Conflict) : Event :=
  .fieldConflict c.key c.kept.type c.kept.id c.ignored.type c.ignored.id c.origin.name

/-- The fields found so far and the conflicts between them. -/
structure Discovery where
  fields : List Field
  conflicts : List Conflict
  deriving DecidableEq, Repr

namespace Discovery

/-- Nothing found. -/
def empty : Discovery := ⟨[], []⟩

/-- The field found for a key. -/
def get? (d : Discovery) (key : String) : Option Field :=
  d.fields.find? fun field => field.key == key

/-- The keys of the fields found. -/
def keys (d : Discovery) : List String := d.fields.map Field.key

/-- Takes a candidate in: it is kept when its key is new. -/
def add (d : Discovery) (c : Candidate) : Discovery :=
  match d.get? c.field.key with
  | none => { d with fields := d.fields ++ [c.field] }
  | some kept =>
    if c.origin = .mentioned || kept.type = c.field.type then d
    else { d with conflicts := d.conflicts ++ [⟨kept, c.field, c.origin⟩] }

end Discovery

/-- The fields of a template with their conflicts. -/
def Template.discovery (t : Template) : Discovery := t.candidates.foldl Discovery.add .empty

/-- Discovers the fields of a template and records each conflict. -/
def Template.discover (t : Template) : Traced Discovery :=
  let d := t.discovery
  ⟨d.conflicts.map Conflict.toEvent ++
    [.fieldsDiscovered t.id d.fields.length d.conflicts.length], .ok d⟩

end Stencil
