/-
# Rendering sections

Each kind of section has a renderer of its own, configured once. A renderer turns a
section and a record into a node. Only a table section without columns has no node.
A separator and a table without columns make no use of the data.
-/

import Stencil.Log.Trace
import Stencil.Placeholder
import Stencil.Render.Node
import Stencil.Value.Input

namespace Stencil.Render

/-- A configured renderer. -/
inductive Renderer
  | header (size : Number)
  | body (size : Number)
  | footer (size : Number)
  | detail (headingSize : Number)
  | separator (divider : String)
  | table (readsLegacyRows : Bool)
  | signature (blank : String)
  deriving DecidableEq, Repr

/-- Repeats a text, not at all for a count below one. Counts beyond 64 bits and texts
that do not fit into memory are refused. -/
def divider [Machine] (char : String) (width : Int) : Except Failure String :=
  if width < -0x8000000000000000 ∨ 0x8000000000000000 ≤ width then
    .error .dividerCountTooLarge
  else if char = "" ∨ width ≤ 0 then .ok ""
  else if 0x8000000000000000 ≤ char.length * width then .error .dividerTooLong
  else if Machine.longestDivider < char.length * width then .error .dividerExhaustsMemory
  else .ok (String.ofList (List.replicate width.toNat char.toList).flatten)

namespace Renderer

/-- The kind of section that a renderer is for. -/
def kind : Renderer → SectionKind
  | .header _ => .header
  | .body _ => .body
  | .footer _ => .footer
  | .detail _ => .detail
  | .separator _ => .separator
  | .table _ => .table
  | .signature _ => .signature

/-- The line for signing by hand. -/
def standardBlank : String := String.ofList (List.replicate 24 '_')

/-- The renderer of a kind that nothing is configured for. -/
def standard : SectionKind → Renderer
  | .header => .header (.int 18)
  | .body => .body (.int 11)
  | .footer => .footer (.int 9)
  | .detail => .detail (.int 13)
  | .separator => .separator (String.ofList (List.replicate 80 '-'))
  | .table => .table true
  | .signature => .signature standardBlank

@[simp]
theorem kind_standard (k : SectionKind) : (standard k).kind = k := by cases k <;> rfl

/-- The style that a renderer starts from. -/
def defaultStyle? : Renderer → Option Style
  | .header size => some { size, weight := "bold", align := "center" }
  | .body size => some { size }
  | .footer size => some { size }
  | .detail size => some { size, weight := "bold" }
  | _ => none

/-- The style of a section. -/
def styleOf (r : Renderer) (s : TemplateSection) : Option Style :=
  r.defaultStyle?.map fun style => style.mergeOptional s.style

end Renderer

/-- The line for a field with a value. -/
def filledLine [Machine] (occasion : Occasion) (data : Record) (f : Field) :
    Except Failure FieldLine :=
  ((data.value f.key).display occasion).map fun shown => { label := f.label, value := shown }

/-- The lines for the fields that have a value. -/
def detailLines [Machine] (fields : List Field) (data : Record) : Except Failure (List FieldLine) :=
  (fields.filter fun f => (data.value f.key).isPresent).mapM
    (filledLine .detailLine data)

/-- The lines for all fields; a field without a value gets a blank. -/
def signatureLines [Machine] (blank : String) (fields : List Field) (data : Record) :
    Except Failure (List FieldLine) :=
  fields.mapM fun f =>
    if (data.value f.key).isPresent then filledLine .signatureLine data f
    else .ok { label := f.label, value := blank, isBlank := true }

/-- The key under which templates of old keep the rows of a table. -/
def legacyRowsKey : String := "tableData"

/-- The value that holds the rows of a table, and whether it is the one under the old
key. -/
def rowSource (readsLegacyRows : Bool) (s : TemplateSection) (data : Record) : Value × Bool :=
  if !(data.value s.id).isNull then (data.value s.id, false)
  else if readsLegacyRows && !(data.value legacyRowsKey).isNull then
    (data.value legacyRowsKey, true)
  else (.list [], false)

/-- The cell of a row in a column. -/
def cell [Machine] (row : Value) (column : Column) : Except Failure String :=
  match row.record? with
  | some record => (record.value column.key).display .cell
  | none => .ok ""

/-- The cells of the rows in the columns. -/
def tableRows [Machine] (source : Value) (columns : List Column) :
    Except Failure (List (List String)) :=
  source.items.mapM fun row => columns.mapM (cell row)

/-- Renders a visible section. -/
def Renderer.render [Machine] (r : Renderer) (s : TemplateSection) (data : Record) :
    Traced (Option Node) :=
  match r with
  | .header _ | .body _ | .footer _ => do
    let text ← Traced.ofExcept (Placeholder.substituteOptional s.content data)
    pure (some
      { kind := r.kind, sectionId := s.id, text := some text, style := r.styleOf s })
  | .detail _ => do
    let lines ← Traced.ofExcept (detailLines s.declared data)
    let title ← Traced.ofExcept (Placeholder.substituteOptional s.title data)
    let text ← Traced.ofExcept (Placeholder.substituteOptional s.content data)
    pure (some
      { kind := .detail, sectionId := s.id, title := nonEmpty? title, text := nonEmpty? text,
        style := r.styleOf s, fieldLines := some lines })
  | .separator divider =>
    pure (some { kind := .separator, sectionId := s.id, divider := some divider })
  | .table readsLegacyRows =>
    if s.columnList.isEmpty then do
      Traced.note (.tableWithoutColumns s.id)
      pure none
    else do
      let (source, isLegacy) := rowSource readsLegacyRows s data
      Traced.notes (if isLegacy then [.legacyRowsUsed s.id] else [])
      let title ← Traced.ofExcept (Placeholder.substituteOptional s.title data)
      let rows ← Traced.ofExcept (tableRows source s.columnList)
      pure (some
        { kind := .table, sectionId := s.id, title := nonEmpty? title,
          headerRow := some (s.columnList.map Column.label), rows := some rows })
  | .signature blank => do
    let lines ← Traced.ofExcept (signatureLines blank s.declared data)
    let title ← Traced.ofExcept (Placeholder.substituteOptional s.title data)
    pure (some
      { kind := .signature, sectionId := s.id,
        title := some ((nonEmpty? title).getD "Signature"),
        fieldLines := some lines, hasSignatureLine := true })

/-- What a renderer does first with the data of a section. -/
def Renderer.dataUse (r : Renderer) (s : TemplateSection) : Use :=
  match r with
  | .header _ | .body _ | .footer _ => .substitution
  | .detail _ | .signature _ => if s.declared.isEmpty then .substitution else .lookup
  | .separator _ => .nothing
  | .table _ => .lookups s.columnList

/-- Renders a visible section with data of any type. -/
def Renderer.renderWith [Machine] (r : Renderer) (s : TemplateSection) (data : Value) :
    Traced (Option Node) := do
  let record ← Traced.ofExcept (data.asDataFor (r.dataUse s))
  r.render s record

end Stencil.Render
