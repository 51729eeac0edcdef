/-
# Render nodes

A node is what a section becomes: texts, rows and lines with all data put in, and
hints for their style. How it is drawn is not decided here. The document of a node
leaves out what is not set.
-/

import Stencil.Template.Encode

namespace Stencil.Render

/-- The style of a node. -/
structure Style where
  size : Number
  weight : String := "normal"
  align : String := "left"
  marginTop : Option Number := none
  marginBottom : Option Number := none
  deriving DecidableEq, Repr

/-- A labelled value. A blank line is to be filled in by hand, and its value is a
marker. -/
structure FieldLine where
  label : String
  value : String
  isBlank : Bool := false
  deriving DecidableEq, Repr

/-- The text of a line. -/
def FieldLine.text (line : FieldLine) : String := line.label ++ ": " ++ line.value

/-- What a section becomes. -/
structure Node where
  kind : SectionKind
  sectionId : String
  text : Option String := none
  title : Option String := none
  style : Option Style := none
  headerRow : Option (List String) := none
  rows : Option (List (List String)) := none
  fieldLines : Option (List FieldLine) := none
  divider : Option String := none
  hasSignatureLine : Bool := false
  deriving DecidableEq, Repr

/-- A number as a value. -/
def numberValue : Number → Value
  | .int i => .int i
  | .float x => .float x

/-- A list of texts as a value. -/
def textsValue (texts : List String) : Value := .list (texts.map .text)

/-- The document of a style. -/
def Style.toValue (s : Style) : Value :=
  .object (presentEntries
    [("fontSize", some (numberValue s.size)), ("fontWeight", some (.text s.weight)),
     ("textAlign", some (.text s.align)), ("marginTop", s.marginTop.map numberValue),
     ("marginBottom", s.marginBottom.map numberValue)])

/-- The document of a line. -/
def FieldLine.toValue (line : FieldLine) : Value :=
  .object
    [("label", .text line.label), ("value", .text line.value), ("text", .text line.text),
     ("blank", .bool line.isBlank)]

/-- The document of a node. -/
def Node.toValue (n : Node) : Value :=
  .object (presentEntries
    [("kind", some (.text n.kind.name)), ("sectionId", some (.text n.sectionId)),
     ("resolvedText", n.text.map .text), ("title", n.title.map .text),
     ("divider", n.divider.map .text), ("styleHints", n.style.map Style.toValue),
     ("headerRow", n.headerRow.map textsValue),
     ("rows", n.rows.map fun rows => .list (rows.map textsValue)),
     ("fieldLines", n.fieldLines.map fun lines => .list (lines.map FieldLine.toValue)),
     ("signatureLine", if n.hasSignatureLine then some (.bool true) else none)])

/-- A text that is not empty. -/
def nonEmpty? (s : String) : Option String := if s = "" then none else some s

namespace Style

/-- A number that is set and not zero, or a default. -/
def numberOr (given : Option Binary64) (absent : Number) : Number :=
  match given with
  | some x => if x.isZero then absent else .float x
  | none => absent

/-- A margin that is set and not zero, or a default. -/
def marginOr (given : Option Binary64) (absent : Option Number) : Option Number :=
  match given with
  | some x => if x.isZero then absent else some (.float x)
  | none => absent

/-- A style with the changes of a section. Changes to zero or to the empty text keep
the default. -/
def merge (defaults : Style) (change : StyleOverride) : Style where
  size := numberOr change.fontSize defaults.size
  weight := (change.fontWeight.bind nonEmpty?).getD defaults.weight
  align := (change.textAlign.bind nonEmpty?).getD defaults.align
  marginTop := marginOr change.marginTop defaults.marginTop
  marginBottom := marginOr change.marginBottom defaults.marginBottom

/-- A style with the changes of a section that may have none. -/
def mergeOptional (defaults : Style) (change : Option StyleOverride) : Style :=
  change.elim defaults defaults.merge

end Style

end Stencil.Render
