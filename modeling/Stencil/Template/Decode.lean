/-
# Templates from decoded documents

A decoded document is checked attribute by attribute in the order in which the
attributes are declared, and refused with all its issues. Attributes that no model
declares are passed over.
-/

import Stencil.Schema.Coercion
import Stencil.Template.Basic

namespace Stencil

open Schema

/-- Reads a default value; it keeps the type it has. A value of no fitting type is
refused once for each type it might have had. -/
def Scalar.read : Value → Checked Scalar
  | .text s => .accepted (.text s)
  | .int i => .accepted (.int i)
  | .float x => .accepted (.float x)
  | .bool b => .accepted (.bool b)
  | _ =>
    .refused [⟨[.key "str"], .notText⟩, ⟨[.key "int"], .notInteger⟩,
      ⟨[.key "float"], .notNumber⟩, ⟨[.key "bool"], .notBoolean⟩]

/-- Reads an option of a field. -/
def FieldOption.read : Value → Checked FieldOption :=
  readModel "FieldOption" fun es =>
    FieldOption.mk
      <$> required es (.same "label") readText
      <*> required es (.same "value") readText

/-- Reads the constraints of a field. -/
def FieldRules.read : Value → Checked FieldRules :=
  readModel "FieldValidation" fun es =>
    FieldRules.mk
      <$> optional es (.same "min") readNumber
      <*> optional es (.same "max") readNumber
      <*> optional es (.same "pattern") readText
      <*> optional es (.same "message") readText

/-- Reads a field. -/
def Field.read : Value → Checked Field :=
  readModel "TemplateField" fun es =>
    Field.mk
      <$> required es (.same "id") readText
      <*> required es (.same "key") readText
      <*> required es (.same "label") readText
      <*> defaulted es (.same "type") .text (readChoice FieldType.named)
      <*> defaulted es (.same "required") false readBoolean
      <*> optional es ⟨"defaultValue", "default_value"⟩ Scalar.read
      <*> optional es (.same "placeholder") readText
      <*> optional es (.same "options") (readList FieldOption.read)
      <*> optional es (.same "validation") FieldRules.read

/-- Reads a column. -/
def Column.read : Value → Checked Column :=
  readModel "TableColumn" fun es =>
    Column.mk
      <$> required es (.same "id") readText
      <*> required es (.same "key") readText
      <*> required es (.same "label") readText
      <*> defaulted es (.same "type") .text (readChoice ColumnType.named)
      <*> optional es (.same "width") readText

/-- Reads what a section changes in its style. -/
def StyleOverride.read : Value → Checked StyleOverride :=
  readModel "SectionStyle" fun es =>
    StyleOverride.mk
      <$> optional es ⟨"fontSize", "font_size"⟩ readNumber
      <*> optional es ⟨"fontWeight", "font_weight"⟩ readText
      <*> optional es ⟨"textAlign", "text_align"⟩ readText
      <*> optional es ⟨"marginTop", "margin_top"⟩ readNumber
      <*> optional es ⟨"marginBottom", "margin_bottom"⟩ readNumber

/-- Reads a condition. -/
def Condition.read : Value → Checked Condition :=
  readModel "SectionConditional" fun es =>
    Condition.mk
      <$> optional es ⟨"showIf", "show_if"⟩ readText
      <*> optional es ⟨"hideIf", "hide_if"⟩ readText

/-- Reads a section. -/
def TemplateSection.read : Value → Checked TemplateSection :=
  readModel "TemplateSection" fun es =>
    TemplateSection.mk
      <$> required es (.same "id") readText
      <*> required es ⟨"type", "kind"⟩ readText
      <*> optional es (.same "title") readText
      <*> optional es (.same "content") readText
      <*> optional es (.same "fields") (readList Field.read)
      <*> optional es (.same "columns") (readList Column.read)
      <*> optional es (.same "style") StyleOverride.read
      <*> optional es (.same "conditional") Condition.read

/-- Reads the metadata of a template. -/
def Metadata.read : Value → Checked Metadata :=
  readModel "TemplateMetadata" fun es =>
    Metadata.mk
      <$> optional es (.same "author") readText
      <*> optional es (.same "tags") (readList readText)

/-- Reads a template. -/
def Template.read : Value → Checked Template :=
  readModel "Template" fun es =>
    Template.mk
      <$> required es (.same "id") readText
      <*> required es (.same "name") readText
      <*> defaulted es (.same "version") "1.0.0" readText
      <*> optional es (.same "description") readText
      <*> optional es (.same "category") readText
      <*> optional es ⟨"createdAt", "created_at"⟩ readText
      <*> optional es ⟨"updatedAt", "updated_at"⟩ readText
      <*> defaulted es (.same "sections") [] (readList TemplateSection.read)
      <*> defaulted es (.same "fields") [] (readList Field.read)
      <*> optional es (.same "metadata") Metadata.read

end Stencil
