/-
# Published schemas

A published schema tells other programs what a document looks like. It names the
shape of every attribute; shapes that occur in several places are defined once and
referred to by name.
-/

import Stencil.Value.Basic

namespace Stencil.Schema

/-- What a schema says about a value. -/
inductive Shape
  | null
  | text
  | integer
  | number
  | boolean
  | list (item : Shape)
  | reference (name : String)
  | anyOf (shapes : List Shape)
  deriving Repr

/-- A shape, or null in its place. -/
def Shape.nullable (shape : Shape) : Shape := .anyOf [shape, .null]

/-- What a schema says about an attribute. -/
structure Property where
  name : String
  shape : Shape
  isRequired : Bool := false
  absent : Option Value := none
  description : Option String := none
  deriving Repr

/-- What a name in a schema stands for: one of several texts, or an object with
known attributes. -/
inductive Definition
  | choice (description : String) (choices : List String)
  | model (description : String) (properties : List Property)
  deriving Repr

/-- A schema: its own name and definition, and the definitions that it refers to. -/
structure Published where
  name : String
  main : Definition
  definitions : List (String × Definition)
  deriving Repr

/-- The entries of an object in alphabetical order of their names. -/
def alphabetical (entries : List (String × Value)) : List (String × Value) :=
  entries.mergeSort fun a b => a.1 ≤ b.1

mutual

/-- The entries that describe a shape. -/
def Shape.entries : Shape → List (String × Value)
  | .null => [("type", .text "null")]
  | .text => [("type", .text "string")]
  | .integer => [("type", .text "integer")]
  | .number => [("type", .text "number")]
  | .boolean => [("type", .text "boolean")]
  | .list item => [("items", .object item.entries), ("type", .text "array")]
  | .reference name => [("$ref", .text ("#/$defs/" ++ name))]
  | .anyOf shapes => [("anyOf", .list (Shape.documents shapes))]

/-- The documents of shapes. -/
def Shape.documents : List Shape → List Value
  | [] => []
  | shape :: rest => .object shape.entries :: Shape.documents rest

end

/-- Whether a shape is a reference, or one that may be null. References bring a
title of their own. -/
def Shape.refers : Shape → Bool
  | .reference _ => true
  | .anyOf [.reference _, .null] => true
  | _ => false

/-- A name as a title: a capital first and small letters after it. -/
def titleOf (name : String) : String :=
  match name.toList with
  | [] => ""
  | first :: rest => String.ofList (first.toUpper :: rest.map Char.toLower)

/-- The document of an attribute. -/
def Property.toValue (p : Property) : Value :=
  .object (alphabetical (p.shape.entries ++
    (p.absent.toList.map fun v => ("default", v)) ++
    (p.description.toList.map fun s => ("description", .text s)) ++
    (if p.shape.refers then [] else [("title", .text (titleOf p.name))])))

/-- The entries that define a name. -/
def Definition.entries (name : String) : Definition → List (String × Value)
  | .choice description choices =>
    [("description", .text description), ("enum", .list (choices.map .text)),
     ("title", .text name), ("type", .text "string")]
  | .model description properties =>
    let needed := (properties.filter Property.isRequired).map fun p => Value.text p.name
    [("description", .text description),
     ("properties", .object (properties.map fun p => (p.name, p.toValue)))] ++
    (if needed.isEmpty then [] else [("required", .list needed)]) ++
    [("title", .text name), ("type", .text "object")]

/-- The document of a schema. -/
def Published.toValue (s : Published) : Value :=
  .object (("$defs", .object (alphabetical
    (s.definitions.map fun (name, d) => (name, .object (d.entries name))))) ::
    s.main.entries s.name)

end Stencil.Schema
