/-
# Templates as documents

A template is written with the stored names of its attributes in the order in which
they are declared. Attributes without a value are left out.
-/

import Stencil.Json.Printer
import Stencil.Template.Basic

namespace Stencil

/-- The entries of attributes that have a value. -/
def presentEntries (attributes : List (String × Option Value)) : List (String × Value) :=
  attributes.filterMap fun (name, v?) => v?.map fun v => (name, v)

/-- The document of an option. -/
def FieldOption.toValue (o : FieldOption) : Value :=
  .object [("label", .text o.label), ("value", .text o.value)]

/-- The document of the constraints of a field. -/
def FieldRules.toValue (r : FieldRules) : Value :=
  .object (presentEntries
    [("min", r.min.map .float), ("max", r.max.map .float), ("pattern", r.pattern.map .text),
     ("message", r.message.map .text)])

/-- The document of a field. -/
def Field.toValue (f : Field) : Value :=
  .object (presentEntries
    [("id", some (.text f.id)), ("key", some (.text f.key)), ("label", some (.text f.label)),
     ("type", some (.text f.type.name)), ("required", some (.bool f.isRequired)),
     ("defaultValue", f.defaultValue.map Scalar.toValue), ("placeholder", f.placeholder.map .text),
     ("options", f.options.map fun os => .list (os.map FieldOption.toValue)),
     ("validation", f.rules.map FieldRules.toValue)])

/-- The document of a column. -/
def Column.toValue (c : Column) : Value :=
  .object (presentEntries
    [("id", some (.text c.id)), ("key", some (.text c.key)), ("label", some (.text c.label)),
     ("type", some (.text c.type.name)), ("width", c.width.map .text)])

/-- The document of what a section changes in its style. -/
def StyleOverride.toValue (s : StyleOverride) : Value :=
  .object (presentEntries
    [("fontSize", s.fontSize.map .float), ("fontWeight", s.fontWeight.map .text),
     ("textAlign", s.textAlign.map .text), ("marginTop", s.marginTop.map .float),
     ("marginBottom", s.marginBottom.map .float)])

/-- The document of a condition. -/
def Condition.toValue (c : Condition) : Value :=
  .object (presentEntries [("showIf", c.showIf.map .text), ("hideIf", c.hideIf.map .text)])

/-- The document of a section. -/
def TemplateSection.toValue (s : TemplateSection) : Value :=
  .object (presentEntries
    [("id", some (.text s.id)), ("type", some (.text s.kindName)), ("title", s.title.map .text),
     ("content", s.content.map .text),
     ("fields", s.fields.map fun fs => .list (fs.map Field.toValue)),
     ("columns", s.columns.map fun cs => .list (cs.map Column.toValue)),
     ("style", s.style.map StyleOverride.toValue),
     ("conditional", s.condition.map Condition.toValue)])

/-- The document of the metadata. -/
def Metadata.toValue (m : Metadata) : Value :=
  .object (presentEntries
    [("author", m.author.map .text), ("tags", m.tags.map fun ts => .list (ts.map .text))])

/-- The document of a template. -/
def Template.toValue (t : Template) : Value :=
  .object (presentEntries
    [("id", some (.text t.id)), ("name", some (.text t.name)),
     ("version", some (.text t.version)), ("description", t.description.map .text),
     ("category", t.category.map .text), ("createdAt", t.createdAt.map .text),
     ("updatedAt", t.updatedAt.map .text),
     ("sections", some (.list (t.sections.map TemplateSection.toValue))),
     ("fields", some (.list (t.fields.map Field.toValue))),
     ("metadata", t.metadata.map Metadata.toValue)])

/-- The text under which a template is stored. -/
def Template.dump (t : Template) (indent : Option Nat) : String :=
  Json.print (Json.storedStyle indent) t.toValue

end Stencil
