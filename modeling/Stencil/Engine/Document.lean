/-
# Documents

A document is everything that is made from one template and one record. Its summary
is what other programs are given.
-/

import Stencil.Field.Constraint
import Stencil.Field.Discovery
import Stencil.Render.Node

namespace Stencil

/-- What is made from a template and a record. -/
structure Document where
  nodes : List Render.Node
  fields : List Field
  data : Record
  missing : List String
  violations : List Violation
  conflicts : List Conflict

/-- The document of a list of missing keys. -/
def missingValue (missing : List String) : Value :=
  .object [("isValid", .bool missing.isEmpty), ("missingFields", .list (missing.map .text))]

/-- The document of a broken rule. -/
def Violation.toValue (v : Violation) : Value :=
  .object [("key", .text v.key), ("rule", .text v.rule.name), ("message", .text v.message)]

/-- The document of a conflict. -/
def Conflict.toValue (c : Conflict) : Value :=
  .object
    [("key", .text c.key), ("kept", .text c.kept.id), ("ignored", .text c.ignored.id),
     ("source", .text c.origin.name)]

namespace Document

/-- The entries of the summary. -/
def summaryEntries (d : Document) : List (String × Value) :=
  [("validation", missingValue d.missing),
   ("violations", .list (d.violations.map Violation.toValue)),
   ("conflicts", .list (d.conflicts.map Conflict.toValue)),
   ("nodes", .list (d.nodes.map Render.Node.toValue))]

/-- The summary of a document. -/
def summary (d : Document) : Value := .object d.summaryEntries

end Document

end Stencil
