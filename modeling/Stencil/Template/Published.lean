/-
# The published schema of templates

Other programs learn from this schema what a template document looks like.
-/

import Stencil.Schema.Shape
import Stencil.Template.Basic

namespace Stencil.Template

open Schema

/-- A text that has to be there. -/
def neededText (name : String) : Property := { name, shape := .text, isRequired := true }

/-- An attribute that is null unless it is given. -/
def nullDefault (name : String) (shape : Shape) : Property :=
  { name, shape := shape.nullable, absent := some .null }

/-- The definition of field types. -/
def fieldTypeDefinition : Definition :=
  .choice "Editable field types." (FieldType.named.map (·.1))

/-- The definition of column types. -/
def columnTypeDefinition : Definition :=
  .choice "Table column value types." (ColumnType.named.map (·.1))

/-- The definition of options. -/
def optionDefinition : Definition :=
  .model "A choice offered by select and multiselect fields."
    [neededText "label", neededText "value"]

/-- The definition of constraints. -/
def rulesDefinition : Definition :=
  .model "Optional value constraints attached to a field."
    [nullDefault "min" .number, nullDefault "max" .number, nullDefault "pattern" .text,
     nullDefault "message" .text]

/-- The definition of fields. -/
def fieldDefinition : Definition :=
  .model "A named, typed editable value referenced by the template."
    [{ neededText "id" with description := some "Stable identifier of the field" },
     { neededText "key" with
       description := some "Key used to look the value up in the data record" },
     { neededText "label" with description := some "Human readable label" },
     { name := "type", shape := .reference "FieldType", absent := some (.text "text") },
     { name := "required", shape := .boolean, absent := some (.bool false) },
     { name := "defaultValue",
       shape := .anyOf [.text, .integer, .number, .boolean, .null],
       absent := some .null,
       description := some "Value used when data omits the key" },
     nullDefault "placeholder" .text,
     nullDefault "options" (.list (.reference "FieldOption")),
     nullDefault "validation" (.reference "FieldValidation")]

/-- The definition of columns. -/
def columnDefinition : Definition :=
  .model "A column of a table section."
    [neededText "id", neededText "key", neededText "label",
     { name := "type", shape := .reference "ColumnType", absent := some (.text "text") },
     nullDefault "width" .text]

/-- The definition of style changes. -/
def styleDefinition : Definition :=
  .model "Section-level style overrides."
    [nullDefault "fontSize" .number, nullDefault "fontWeight" .text,
     nullDefault "textAlign" .text, nullDefault "marginTop" .number,
     nullDefault "marginBottom" .number]

/-- The definition of conditions. -/
def conditionDefinition : Definition :=
  .model "Visibility rule evaluated against the data record."
    [{ nullDefault "showIf" .text with description := some "Key whose value must be truthy" },
     { nullDefault "hideIf" .text with description := some "Key whose value must be falsy" }]

/-- The definition of sections. -/
def sectionDefinition : Definition :=
  .model ("One structural unit of a template.\n\n``kind`` is kept as a plain string so " ++
      "templates authored for newer\nsection kinds still load; the renderer skips kinds " ++
      "it does not know.")
    [neededText "id",
     { neededText "type" with description := some "Section kind, see SectionKind" },
     nullDefault "title" .text, nullDefault "content" .text,
     nullDefault "fields" (.list (.reference "TemplateField")),
     nullDefault "columns" (.list (.reference "TableColumn")),
     nullDefault "style" (.reference "SectionStyle"),
     nullDefault "conditional" (.reference "SectionConditional")]

/-- The definition of metadata. -/
def metadataDefinition : Definition :=
  .model "Authoring metadata."
    [nullDefault "author" .text, nullDefault "tags" (.list .text)]

/-- The definition of templates. -/
def templateDefinition : Definition :=
  .model ("Declarative document template.\n\n``sections`` order is significant and " ++
      "preserved by the renderer.\n``fields`` are global fields available across all sections.")
    [neededText "id", neededText "name",
     { name := "version", shape := .text, absent := some (.text "1.0.0") },
     nullDefault "description" .text, nullDefault "category" .text,
     nullDefault "createdAt" .text, nullDefault "updatedAt" .text,
     { name := "sections", shape := .list (.reference "TemplateSection") },
     { name := "fields", shape := .list (.reference "TemplateField") },
     nullDefault "metadata" (.reference "TemplateMetadata")]

/-- The schema of template documents. -/
def published : Published where
  name := "Template"
  main := templateDefinition
  definitions :=
    [("FieldType", fieldTypeDefinition), ("ColumnType", columnTypeDefinition),
     ("FieldOption", optionDefinition), ("FieldValidation", rulesDefinition),
     ("TemplateField", fieldDefinition), ("TableColumn", columnDefinition),
     ("SectionStyle", styleDefinition), ("SectionConditional", conditionDefinition),
     ("TemplateSection", sectionDefinition), ("TemplateMetadata", metadataDefinition)]

end Stencil.Template
