/-
# Instances of a schema

The document of a schema is an object of keywords, and a value is an instance of it if it keeps
what each of them asks for. The keywords are read as the JSON Schema standard reads them: those
for lists and objects ask nothing of any other value, a reference stands for what is defined
under its name, and a remark asks for nothing. A document with an unknown keyword has no
instances.
-/

import Mathlib.Data.List.Nodup
import Stencil.Schema.Shape

namespace Stencil.Schema

/-- A keyword of a schema. -/
inductive Keyword
  | type (name : String)
  | enum (choices : List Value)
  | items (schema : Value)
  | properties (schemas : List (String × Value))
  | required (names : List Value)
  | anyOf (schemas : List Value)
  | reference (address : String)
  | remark

/-- The keyword that an entry of a document is. -/
def Keyword.ofEntry? : String × Value → Option Keyword
  | ("type", .text name) => some (.type name)
  | ("enum", .list choices) => some (.enum choices)
  | ("items", schema) => some (.items schema)
  | ("properties", .object schemas) => some (.properties schemas)
  | ("required", .list names) => some (.required names)
  | ("anyOf", .list schemas) => some (.anyOf schemas)
  | ("$ref", .text address) => some (.reference address)
  | ("$defs", _) | ("default", _) | ("description", _) | ("title", _) => some .remark
  | _ => none

/-- Whether a value is of a type that a schema names. A number is one that JSON can write, so it
is finite, and an integer may be written with a point. -/
@[simp]
def hasType : String → Value → Bool
  | "null", .null => true
  | "string", .text _ => true
  | "boolean", .bool _ => true
  | "integer", .int _ => true
  | "integer", .float x => x.toInt?.isSome
  | "number", .int _ => true
  | "number", .float x => x.isFinite
  | "array", .list _ => true
  | "object", .object _ => true
  | _, _ => false

/-- The address of a definition in the document of a schema. -/
def addressOf (name : String) : String := "#/$defs/" ++ name

mutual

/-- A value is an instance of the document of a schema. -/
inductive IsInstance (definitions : List (String × Value)) : Value → Value → Prop
  | intro {entries : List (String × Value)} {v : Value}
      (known : ∀ entry ∈ entries, (Keyword.ofEntry? entry).isSome = true)
      (each : ∀ entry ∈ entries, ∀ keyword, Keyword.ofEntry? entry = some keyword →
        Keeps definitions keyword v) :
      IsInstance definitions (.object entries) v

/-- A value keeps what a keyword asks for. -/
inductive Keeps (definitions : List (String × Value)) : Keyword → Value → Prop
  | type {name : String} {v : Value} (own : hasType name v = true) :
      Keeps definitions (.type name) v
  | enum {choices : List Value} {v : Value} (mem : v ∈ choices) :
      Keeps definitions (.enum choices) v
  | items {schema v : Value}
      (each : ∀ items, v = .list items → ∀ item ∈ items, IsInstance definitions schema item) :
      Keeps definitions (.items schema) v
  | properties {schemas : List (String × Value)} {v : Value}
      (each : ∀ entries, v = .object entries → ∀ schema ∈ schemas, ∀ w,
        entries.lookup schema.1 = some w → IsInstance definitions schema.2 w) :
      Keeps definitions (.properties schemas) v
  | required {names : List Value} {v : Value}
      (each : ∀ entries, v = .object entries → ∀ name, .text name ∈ names →
        ∃ w, entries.lookup name = some w) :
      Keeps definitions (.required names) v
  | anyOf {schemas : List Value} {schema v : Value} (mem : schema ∈ schemas)
      (one : IsInstance definitions schema v) : Keeps definitions (.anyOf schemas) v
  | reference {name : String} {schema v : Value} (defined : (name, schema) ∈ definitions)
      (own : IsInstance definitions schema v) :
      Keeps definitions (.reference (addressOf name)) v
  | remark {v : Value} : Keeps definitions .remark v

end

/-- What the document of a schema defines for its references. -/
def definitionsOf : Value → List (String × Value)
  | .object entries =>
    match entries.lookup "$defs" with
    | some (.object definitions) => definitions
    | _ => []
  | _ => []

/-- A value is an instance of a whole document, which brings its own definitions. -/
def IsInstanceOf (document v : Value) : Prop := IsInstance (definitionsOf document) document v

variable {definitions : List (String × Value)} {v : Value}

/-- A value keeps what an entry of a document asks for. -/
def KeepsEntry (definitions : List (String × Value)) (v : Value) (entry : String × Value) : Prop :=
  ∃ keyword, Keyword.ofEntry? entry = some keyword ∧ Keeps definitions keyword v

theorem isInstance_object_iff {entries : List (String × Value)} :
    IsInstance definitions (.object entries) v ↔ ∀ entry ∈ entries, KeepsEntry definitions v entry := by
  constructor
  · rintro ⟨known, each⟩ entry mem
    obtain ⟨keyword, read⟩ := Option.isSome_iff_exists.mp (known entry mem)
    exact ⟨keyword, read, each entry mem keyword read⟩
  · intro keeps
    refine .intro (fun entry mem => ?_) fun entry mem keyword read => ?_
    · obtain ⟨keyword, read, -⟩ := keeps entry mem
      rw [read]
      rfl
    · obtain ⟨other, same, kept⟩ := keeps entry mem
      obtain rfl := Option.some.inj (read.symm.trans same)
      exact kept

theorem addressOf_inj {first second : String} (same : addressOf first = addressOf second) :
    first = second := by
  simpa [addressOf] using same

/-- What a keyword asks of a value, keyword by keyword. -/
theorem keeps_iff {keyword : Keyword} :
    Keeps definitions keyword v ↔
      match keyword with
      | .type name => hasType name v = true
      | .enum choices => v ∈ choices
      | .items schema =>
        ∀ items, v = .list items → ∀ item ∈ items, IsInstance definitions schema item
      | .properties schemas =>
        ∀ entries, v = .object entries → ∀ schema ∈ schemas, ∀ w,
          entries.lookup schema.1 = some w → IsInstance definitions schema.2 w
      | .required names =>
        ∀ entries, v = .object entries → ∀ name, .text name ∈ names →
          ∃ w, entries.lookup name = some w
      | .anyOf schemas => ∃ schema ∈ schemas, IsInstance definitions schema v
      | .reference address =>
        ∃ name schema, address = addressOf name ∧ (name, schema) ∈ definitions ∧
          IsInstance definitions schema v
      | .remark => True := by
  constructor
  · intro kept
    cases kept with
    | type own => exact own
    | enum mem => exact mem
    | items each | properties each | required each => exact each
    | anyOf mem one => exact ⟨_, mem, one⟩
    | reference defined own => exact ⟨_, _, rfl, defined, own⟩
    | remark => trivial
  · intro asked
    cases keyword with
    | type name => exact .type asked
    | enum choices => exact .enum asked
    | items schema => exact .items asked
    | properties schemas => exact .properties asked
    | required names => exact .required asked
    | anyOf schemas =>
        obtain ⟨schema, mem, one⟩ := asked
        exact .anyOf mem one
    | reference address =>
        obtain ⟨name, schema, rfl, defined, own⟩ := asked
        exact .reference defined own
    | remark => exact .remark

theorem keepsEntry_iff {entry : String × Value} {keyword : Keyword}
    (read : Keyword.ofEntry? entry = some keyword) :
    KeepsEntry definitions v entry ↔ Keeps definitions keyword v := by
  simp [KeepsEntry, read]

@[simp]
theorem keepsEntry_type {name : String} :
    KeepsEntry definitions v ("type", .text name) ↔ hasType name v = true :=
  (keepsEntry_iff rfl).trans keeps_iff

@[simp]
theorem keepsEntry_enum {choices : List Value} :
    KeepsEntry definitions v ("enum", .list choices) ↔ v ∈ choices :=
  (keepsEntry_iff rfl).trans keeps_iff

@[simp]
theorem keepsEntry_items {schema : Value} :
    KeepsEntry definitions v ("items", schema) ↔
      ∀ items, v = .list items → ∀ item ∈ items, IsInstance definitions schema item :=
  (keepsEntry_iff rfl).trans keeps_iff

@[simp]
theorem keepsEntry_properties {schemas : List (String × Value)} :
    KeepsEntry definitions v ("properties", .object schemas) ↔
      ∀ entries, v = .object entries → ∀ schema ∈ schemas, ∀ w,
        entries.lookup schema.1 = some w → IsInstance definitions schema.2 w :=
  (keepsEntry_iff rfl).trans keeps_iff

@[simp]
theorem keepsEntry_required {names : List Value} :
    KeepsEntry definitions v ("required", .list names) ↔
      ∀ entries, v = .object entries → ∀ name, .text name ∈ names →
        ∃ w, entries.lookup name = some w :=
  (keepsEntry_iff rfl).trans keeps_iff

@[simp]
theorem keepsEntry_anyOf {schemas : List Value} :
    KeepsEntry definitions v ("anyOf", .list schemas) ↔
      ∃ schema ∈ schemas, IsInstance definitions schema v :=
  (keepsEntry_iff rfl).trans keeps_iff

theorem keepsEntry_reference {name : String} :
    KeepsEntry definitions v ("$ref", .text (addressOf name)) ↔
      ∃ schema, (name, schema) ∈ definitions ∧ IsInstance definitions schema v := by
  rw [keepsEntry_iff rfl, keeps_iff]
  constructor
  · rintro ⟨other, schema, address, defined, own⟩
    obtain rfl := addressOf_inj address
    exact ⟨schema, defined, own⟩
  · rintro ⟨schema, defined, own⟩
    exact ⟨name, schema, rfl, defined, own⟩

/-- A remark is kept by every value. -/
theorem keepsEntry_remark {entry : String × Value}
    (read : Keyword.ofEntry? entry = some .remark) : KeepsEntry definitions v entry :=
  ⟨.remark, read, .remark⟩

/-! ## The documents of shapes and definitions -/

/-- A value fits a shape if it is an instance of the document of the shape. -/
def Shape.Admits (definitions : List (String × Value)) (shape : Shape) (v : Value) : Prop :=
  IsInstance definitions (.object shape.entries) v

section Shapes

theorem admits_type_iff {shape : Shape} {name : String}
    (entries : shape.entries = [("type", .text name)]) :
    shape.Admits definitions v ↔ hasType name v = true := by
  simp [Shape.Admits, entries, isInstance_object_iff]

@[simp]
theorem admits_null : Shape.null.Admits definitions v ↔ v = .null := by
  rw [admits_type_iff rfl]
  cases v <;> simp

@[simp]
theorem admits_text : Shape.text.Admits definitions v ↔ ∃ s, v = .text s := by
  rw [admits_type_iff rfl]
  cases v <;> simp

@[simp]
theorem admits_boolean : Shape.boolean.Admits definitions v ↔ ∃ b, v = .bool b := by
  rw [admits_type_iff rfl]
  cases v <;> simp

@[simp]
theorem admits_number :
    Shape.number.Admits definitions v ↔
      (∃ i, v = .int i) ∨ ∃ x, v = .float x ∧ x.isFinite = true := by
  rw [admits_type_iff rfl]
  cases v <;> simp

@[simp]
theorem admits_integer :
    Shape.integer.Admits definitions v ↔
      (∃ i, v = .int i) ∨ ∃ x, v = .float x ∧ x.toInt?.isSome = true := by
  rw [admits_type_iff rfl]
  cases v <;> simp

@[simp]
theorem admits_list {item : Shape} :
    (Shape.list item).Admits definitions v ↔
      ∃ items, v = .list items ∧ ∀ w ∈ items, item.Admits definitions w := by
  rw [Shape.Admits, isInstance_object_iff, Shape.entries]
  cases v <;> simp [Shape.Admits]

theorem documents_eq_map (shapes : List Shape) :
    Shape.documents shapes = shapes.map fun shape => .object shape.entries := by
  induction shapes with
  | nil => rfl
  | cons shape rest ih => rw [Shape.documents, ih, List.map_cons]

@[simp]
theorem admits_anyOf {shapes : List Shape} :
    (Shape.anyOf shapes).Admits definitions v ↔ ∃ shape ∈ shapes, shape.Admits definitions v := by
  rw [Shape.Admits, isInstance_object_iff, Shape.entries, List.forall_mem_singleton,
    keepsEntry_anyOf, documents_eq_map]
  simp only [List.mem_map, exists_exists_and_eq_and, Shape.Admits]

theorem admits_nullable {shape : Shape} :
    shape.nullable.Admits definitions v ↔ shape.Admits definitions v ∨ v = .null := by
  simp [Shape.nullable]

theorem admits_reference {name : String} :
    (Shape.reference name).Admits definitions v ↔
      ∃ schema, (name, schema) ∈ definitions ∧ IsInstance definitions schema v := by
  rw [Shape.Admits, isInstance_object_iff, Shape.entries, List.forall_mem_singleton]
  exact keepsEntry_reference

end Shapes

theorem forall_mem_alphabetical {entries : List (String × Value)} {P : String × Value → Prop} :
    (∀ entry ∈ alphabetical entries, P entry) ↔ ∀ entry ∈ entries, P entry := by
  simp only [alphabetical, List.mem_mergeSort]

/-- The document of an attribute asks for its shape and describes it besides. -/
@[simp]
theorem isInstance_property {p : Property} :
    IsInstance definitions p.toValue v ↔ p.shape.Admits definitions v := by
  have described : ∀ entry ∈ (p.absent.toList.map fun v => ("default", v)) ++
      (p.description.toList.map fun s => ("description", Value.text s)) ++
      (if p.shape.refers then [] else [("title", .text (titleOf p.name))]),
      KeepsEntry definitions v entry := by
    simp only [List.forall_mem_append, List.forall_mem_map]
    refine ⟨⟨fun _ _ => keepsEntry_remark rfl, fun _ _ => keepsEntry_remark rfl⟩, ?_⟩
    split
    · exact List.forall_mem_nil _
    · exact List.forall_mem_singleton.mpr (keepsEntry_remark rfl)
  rw [Property.toValue, isInstance_object_iff, forall_mem_alphabetical, List.append_assoc,
    List.append_assoc, List.forall_mem_append, Shape.Admits, isInstance_object_iff,
    ← List.append_assoc]
  exact and_iff_left described

/-- The entries of an object keep an attribute: its value has the shape if it is there, and it is
there if it has to be. -/
structure Property.IsKept (definitions : List (String × Value)) (entries : List (String × Value))
    (p : Property) : Prop where
  admits : ∀ w, entries.lookup p.name = some w → p.shape.Admits definitions w
  present : p.isRequired = true → ∃ w, entries.lookup p.name = some w

namespace Property.IsKept

variable {entries : List (String × Value)} {p : Property}

theorem of_lookup {w : Value} (held : entries.lookup p.name = some w)
    (admits : p.shape.Admits definitions w) : p.IsKept definitions entries :=
  ⟨fun _ found => Option.some.inj (held.symm.trans found) ▸ admits, fun _ => ⟨w, held⟩⟩

theorem of_absent (absent : entries.lookup p.name = none) (optional : p.isRequired = false) :
    p.IsKept definitions entries :=
  ⟨by simp [absent], by simp [optional]⟩

end Property.IsKept

namespace Definition

/-- A value fits a definition if it is one of the choices, or an object that keeps every
attribute. -/
def Admits (definitions : List (String × Value)) (d : Definition) (v : Value) : Prop :=
  match d with
  | .choice _ choices => ∃ s ∈ choices, v = .text s
  | .model _ properties =>
    ∃ entries, v = .object entries ∧ ∀ p ∈ properties, p.IsKept definitions entries

/-- Only attributes that have to be there are listed as such, and no list stands for an empty
one. -/
theorem keeps_needed {properties : List Property} {entries : List (String × Value)}
    {needed : List Value}
    (listed : needed = (properties.filter Property.isRequired).map fun p => .text p.name) :
    (∀ entry ∈ (if needed.isEmpty then [] else [("required", Value.list needed)]),
        KeepsEntry definitions (.object entries) entry) ↔
      ∀ p ∈ properties, p.isRequired = true → ∃ w, entries.lookup p.name = some w := by
  have asked : (∀ p ∈ properties, p.isRequired = true → ∃ w, entries.lookup p.name = some w) ↔
      ∀ name, Value.text name ∈ needed → ∃ w, entries.lookup name = some w := by
    subst listed
    simp only [List.mem_map, List.mem_filter, Value.text.injEq]
    constructor
    · rintro present name ⟨p, ⟨mem, required⟩, rfl⟩
      exact present p mem required
    · exact fun present p mem required => present p.name ⟨p, ⟨mem, required⟩, rfl⟩
  rw [asked]
  by_cases unasked : needed = []
  · simp [unasked]
  · simp [unasked]

/-- The document of a definition asks for what the definition says. -/
theorem isInstance_iff_admits (d : Definition) (name : String) :
    IsInstance definitions (.object (d.entries name)) v ↔ d.Admits definitions v := by
  have described (text : Value) : KeepsEntry definitions v ("description", text) :=
    keepsEntry_remark rfl
  have titled (text : Value) : KeepsEntry definitions v ("title", text) :=
    keepsEntry_remark rfl
  rw [isInstance_object_iff]
  cases d with
  | choice description choices =>
      simp only [entries, List.forall_mem_cons, keepsEntry_enum, keepsEntry_type, List.mem_map,
        described, titled]
      constructor
      · rintro ⟨-, ⟨s, mem, rfl⟩, -⟩
        exact ⟨s, mem, rfl⟩
      · rintro ⟨s, mem, rfl⟩
        exact ⟨trivial, ⟨s, mem, rfl⟩, trivial, rfl, List.forall_mem_nil _⟩
  | model description properties =>
      simp only [entries, List.forall_mem_append, List.forall_mem_cons, keepsEntry_properties,
        keepsEntry_type, List.mem_map, forall_exists_index, and_imp, forall_apply_eq_imp_iff₂,
        isInstance_property, Admits, described, titled]
      constructor
      · rintro ⟨⟨⟨-, declared, -⟩, needed⟩, -, object, -⟩
        cases v with
        | object entries =>
            have present := (keeps_needed rfl).mp needed
            exact ⟨entries, rfl, fun p mem => ⟨declared entries rfl p mem, present p mem⟩⟩
        | _ => cases object
      · rintro ⟨entries, rfl, kept⟩
        refine ⟨⟨⟨trivial, ?_, List.forall_mem_nil _⟩, ?_⟩, trivial, rfl, List.forall_mem_nil _⟩
        · rintro _ ⟨rfl⟩ p mem
          exact (kept p mem).admits
        · exact (keeps_needed rfl).mpr fun p mem => (kept p mem).present

/-- The names that a definition declares. -/
def names : Definition → List String
  | .choice _ _ => []
  | .model _ properties => properties.map Property.name

end Definition

namespace Published

/-- The documents that references in a published schema stand for. -/
def documents (s : Published) : List (String × Value) :=
  alphabetical (s.definitions.map fun (name, d) => (name, .object (d.entries name)))

/-- The names that a published schema declares. -/
def names (s : Published) : List String :=
  (s.main :: s.definitions.map Prod.snd).flatMap Definition.names

variable {s : Published}

theorem isInstanceOf_toValue : IsInstanceOf s.toValue v ↔ s.main.Admits s.documents v := by
  have own : definitionsOf s.toValue = s.documents := by
    simp [definitionsOf, toValue, documents]
  rw [IsInstanceOf, own, ← s.main.isInstance_iff_admits s.name, toValue,
    isInstance_object_iff, isInstance_object_iff, List.forall_mem_cons]
  exact and_iff_right (keepsEntry_remark rfl)

/-- A reference asks for what is defined under its name. -/
theorem admits_reference (distinct : (s.definitions.map Prod.fst).Nodup) {name : String}
    {d : Definition} (defined : (name, d) ∈ s.definitions) :
    (Shape.reference name).Admits s.documents v ↔ d.Admits s.documents v := by
  rw [Schema.admits_reference, ← d.isInstance_iff_admits name]
  have mem_documents (document : Value) : (name, document) ∈ s.documents ↔
      ∃ other, (name, other) ∈ s.definitions ∧ document = .object (other.entries name) := by
    simp [documents, alphabetical, eq_comm]
  constructor
  · rintro ⟨document, mem, own⟩
    obtain ⟨other, also, rfl⟩ := (mem_documents document).mp mem
    obtain rfl : other = d := by
      have same := List.inj_on_of_nodup_map distinct also defined rfl
      exact (Prod.mk.inj same).2
    exact own
  · exact fun own => ⟨_, (mem_documents _).mpr ⟨d, defined, rfl⟩, own⟩

end Published

end Stencil.Schema
