/-
# Templates

A template is an ordered list of sections together with the fields that hold in all
of them. A section names its kind as a text, so that a template written for kinds
of tomorrow still loads; the kinds of today are an inductive type.
-/

import Stencil.Value.Basic

namespace Stencil

/-- The kinds of editable fields. -/
inductive FieldType
  | text | textarea | number | date | email | phone
  | select | multiselect | checkbox | image | table
  deriving DecidableEq, Repr

namespace FieldType

/-- Every field type with its name, in the order in which choices are listed. -/
def named : List (String × FieldType) :=
  [("text", .text), ("textarea", .textarea), ("number", .number), ("date", .date),
   ("email", .email), ("phone", .phone), ("select", .select), ("multiselect", .multiselect),
   ("checkbox", .checkbox), ("image", .image), ("table", .table)]

/-- The name of a field type. -/
def name : FieldType → String
  | .text => "text"
  | .textarea => "textarea"
  | .number => "number"
  | .date => "date"
  | .email => "email"
  | .phone => "phone"
  | .select => "select"
  | .multiselect => "multiselect"
  | .checkbox => "checkbox"
  | .image => "image"
  | .table => "table"

/-- Whether the values of a field are texts of limited length. -/
def isTextual : FieldType → Bool
  | .text | .textarea | .email | .phone => true
  | _ => false

/-- Whether the values of a field are chosen from options. -/
def isChoice : FieldType → Bool
  | .select | .multiselect => true
  | _ => false

end FieldType

/-- The types of table columns. -/
inductive ColumnType
  | text | number | date
  deriving DecidableEq, Repr

namespace ColumnType

/-- Every column type with its name. -/
def named : List (String × ColumnType) :=
  [("text", .text), ("number", .number), ("date", .date)]

/-- The name of a column type. -/
def name : ColumnType → String
  | .text => "text"
  | .number => "number"
  | .date => "date"

end ColumnType

/-- The kinds of sections that can be rendered. -/
inductive SectionKind
  | header | body | footer | detail | separator | table | signature
  deriving DecidableEq, Repr

namespace SectionKind

/-- All kinds, in the order in which they are listed and built. -/
def all : List SectionKind :=
  [.header, .body, .footer, .detail, .separator, .table, .signature]

/-- The name of a kind. -/
def name : SectionKind → String
  | .header => "header"
  | .body => "body"
  | .footer => "footer"
  | .detail => "section"
  | .separator => "separator"
  | .table => "table"
  | .signature => "signature"

/-- The kind of a name. -/
def ofName? (s : String) : Option SectionKind := all.find? fun kind => kind.name == s

end SectionKind

/-- A default value: any value but null, lists and objects. -/
inductive Scalar
  | text (s : String)
  | int (i : Int)
  | float (x : Binary64)
  | bool (b : Bool)
  deriving DecidableEq, Repr

/-- A scalar as a value. -/
def Scalar.toValue : Scalar → Value
  | .text s => .text s
  | .int i => .int i
  | .float x => .float x
  | .bool b => .bool b

/-- A choice offered by a field. -/
structure FieldOption where
  label : String
  value : String
  deriving DecidableEq, Repr

/-- The constraints on the values of a field. -/
structure FieldRules where
  min : Option Binary64 := none
  max : Option Binary64 := none
  pattern : Option String := none
  message : Option String := none
  deriving DecidableEq, Repr

/-- A named, typed value that the document refers to. -/
structure Field where
  id : String
  key : String
  label : String
  type : FieldType := .text
  isRequired : Bool := false
  defaultValue : Option Scalar := none
  placeholder : Option String := none
  options : Option (List FieldOption) := none
  rules : Option FieldRules := none
  deriving DecidableEq, Repr

/-- A column of a table section. -/
structure Column where
  id : String
  key : String
  label : String
  type : ColumnType := .text
  width : Option String := none
  deriving DecidableEq, Repr

/-- What a section changes in the style of its kind. -/
structure StyleOverride where
  fontSize : Option Binary64 := none
  fontWeight : Option String := none
  textAlign : Option String := none
  marginTop : Option Binary64 := none
  marginBottom : Option Binary64 := none
  deriving DecidableEq, Repr

/-- The keys that decide whether a section is visible. -/
structure Condition where
  showIf : Option String := none
  hideIf : Option String := none
  deriving DecidableEq, Repr

/-- One structural unit of a template. -/
structure TemplateSection where
  id : String
  kindName : String
  title : Option String := none
  content : Option String := none
  fields : Option (List Field) := none
  columns : Option (List Column) := none
  style : Option StyleOverride := none
  condition : Option Condition := none
  deriving DecidableEq, Repr

namespace TemplateSection

/-- The kind of a section, if it is known. -/
def kind? (s : TemplateSection) : Option SectionKind := SectionKind.ofName? s.kindName

/-- The fields a section declares. -/
def declared (s : TemplateSection) : List Field := s.fields.getD []

/-- The columns a section declares. -/
def columnList (s : TemplateSection) : List Column := s.columns.getD []

end TemplateSection

/-- What is known about the making of a template. -/
structure Metadata where
  author : Option String := none
  tags : Option (List String) := none
  deriving DecidableEq, Repr

/-- A document template. The order of its sections is the order of the document. -/
structure Template where
  id : String
  name : String
  version : String := "1.0.0"
  description : Option String := none
  category : Option String := none
  createdAt : Option String := none
  updatedAt : Option String := none
  sections : List TemplateSection := []
  fields : List Field := []
  metadata : Option Metadata := none
  deriving DecidableEq, Repr

/-- All declared fields, the template's own ones first and then section by section,
with repeated keys. -/
def Template.declaredFields (t : Template) : List Field :=
  t.fields ++ t.sections.flatMap TemplateSection.declared

end Stencil
