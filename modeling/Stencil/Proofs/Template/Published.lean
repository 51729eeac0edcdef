/-
# The published schema describes templates

The schema of templates, the writer and the reader agree. What a template is stored as is an
instance of the schema, and an instance is read as a template if it uses no other names than the
schema declares and its numbers fit into binary ones. Both hold of each model once they hold of
the models that it refers to.
-/

import Stencil.Proofs.Schema.Described
import Stencil.Proofs.Template.Stored
import Stencil.Template.Published

namespace Stencil

open Schema
open Json (storedValue storedStyle)
open Template

variable {v : Value}

/-- A reference asks for what the schema of templates defines under its name. -/
theorem admits_published_reference {name : String} {d : Definition}
    (defined : (name, d) ∈ published.definitions) :
    (Shape.reference name).Admits published.documents v ↔ d.Admits published.documents v :=
  Published.admits_reference (by simp [published]) defined

/-! ## What is stored -/

section Writing

theorem Scalar.admits_reread (scalar : Scalar) :
    (Shape.anyOf [.text, .integer, .number, .boolean, .null]).Admits published.documents
      (scalar.toValue.reread storedValue) := by
  rw [admits_anyOf]
  cases scalar with
  | text s => exact ⟨.text, by simp, admits_text_reread s⟩
  | int i => exact ⟨.integer, by simp, admits_integer.mpr (.inl ⟨i, rfl⟩)⟩
  | float x =>
      rcases admits_nullable.mp (admits_nullable_number_reread x) with number | null
      · exact ⟨.number, by simp, number⟩
      · exact ⟨.null, by simp, admits_null.mpr null⟩
  | bool b => exact ⟨.boolean, by simp, admits_boolean.mpr ⟨b, rfl⟩⟩

section References

variable {α : Type} {toValue : α → Value} {name : String} {d : Definition}

/-- A model is written as what a reference to its definition asks for. -/
theorem admits_model_reread (defined : (name, d) ∈ published.definitions)
    (each : ∀ x, d.Admits published.documents ((toValue x).reread storedValue)) (x : α) :
    (Shape.reference name).nullable.Admits published.documents ((toValue x).reread storedValue) :=
  admits_nullable_of ((admits_published_reference defined).mpr (each x))

/-- A list of models is written as a list of what a reference asks for. -/
theorem admits_models_reread (defined : (name, d) ∈ published.definitions)
    (each : ∀ x, d.Admits published.documents ((toValue x).reread storedValue)) (xs : List α) :
    (Shape.list (.reference name)).Admits published.documents
      ((Value.list (xs.map toValue)).reread storedValue) :=
  admits_list_reread (fun x => (admits_published_reference defined).mpr (each x)) xs

end References

theorem FieldOption.admits_reread (o : FieldOption) :
    optionDefinition.Admits published.documents (o.toValue.reread storedValue) := by
  have attributes : o.toValue =
      .object (presentEntries [("label", some (.text o.label)), ("value", some (.text o.value))]) :=
    rfl
  rw [attributes]
  refine admits_model ?_ (by simp)
  exact .cons (.of_some (admits_text_reread _)) (.cons (.of_some (admits_text_reread _)) .nil)

theorem FieldRules.admits_reread (r : FieldRules) :
    rulesDefinition.Admits published.documents (r.toValue.reread storedValue) := by
  refine admits_model (.cons ?min (.cons ?max (.cons ?pattern (.cons ?message .nil)))) (by simp)
  case min | max => exact .of_map rfl admits_nullable_number_reread
  case pattern | message => exact .of_map rfl admits_nullable_text_reread

/-- The stored document of a field fits the definition of fields. -/
theorem Field.admits_reread (f : Field) :
    fieldDefinition.Admits published.documents (f.toValue.reread storedValue) := by
  have named : fieldTypeDefinition.Admits published.documents (.text f.type.name) :=
    ⟨f.type.name, by cases f.type <;> decide, rfl⟩
  refine admits_model (.cons ?id (.cons ?key (.cons ?label (.cons ?type (.cons ?required
    (.cons ?default (.cons ?placeholder (.cons ?options (.cons ?validation .nil))))))))) (by simp)
  case id | key | label => exact .of_some (admits_text_reread _)
  case type => exact .of_some ((admits_published_reference (by simp [published])).mpr named)
  case required => exact .of_some (admits_boolean.mpr ⟨_, rfl⟩)
  case default => exact .of_map rfl Scalar.admits_reread
  case placeholder => exact .of_map rfl admits_nullable_text_reread
  case options =>
    exact .of_map rfl fun os => admits_nullable_of
      (admits_models_reread (by simp [published]) FieldOption.admits_reread os)
  case validation =>
    exact .of_map rfl (admits_model_reread (by simp [published]) FieldRules.admits_reread)

theorem Column.admits_reread (c : Column) :
    columnDefinition.Admits published.documents (c.toValue.reread storedValue) := by
  have named : columnTypeDefinition.Admits published.documents (.text c.type.name) :=
    ⟨c.type.name, by cases c.type <;> decide, rfl⟩
  refine admits_model
    (.cons ?id (.cons ?key (.cons ?label (.cons ?type (.cons ?width .nil))))) (by simp)
  case id | key | label => exact .of_some (admits_text_reread _)
  case type => exact .of_some ((admits_published_reference (by simp [published])).mpr named)
  case width => exact .of_map rfl admits_nullable_text_reread

theorem StyleOverride.admits_reread (s : StyleOverride) :
    styleDefinition.Admits published.documents (s.toValue.reread storedValue) := by
  refine admits_model
    (.cons ?size (.cons ?weight (.cons ?align (.cons ?top (.cons ?bottom .nil))))) (by simp)
  case size | top | bottom => exact .of_map rfl admits_nullable_number_reread
  case weight | align => exact .of_map rfl admits_nullable_text_reread

theorem Condition.admits_reread (c : Condition) :
    conditionDefinition.Admits published.documents (c.toValue.reread storedValue) := by
  refine admits_model (.cons ?showIf (.cons ?hideIf .nil)) (by simp)
  case showIf | hideIf => exact .of_map rfl admits_nullable_text_reread

/-- The stored document of a section fits the definition of sections. -/
theorem TemplateSection.admits_reread (s : TemplateSection) :
    sectionDefinition.Admits published.documents (s.toValue.reread storedValue) := by
  refine admits_model (.cons ?id (.cons ?type (.cons ?title (.cons ?content (.cons ?fields
    (.cons ?columns (.cons ?style (.cons ?conditional .nil)))))))) (by simp)
  case id | type => exact .of_some (admits_text_reread _)
  case title | content => exact .of_map rfl admits_nullable_text_reread
  case fields =>
    exact .of_map rfl fun fs => admits_nullable_of
      (admits_models_reread (by simp [published]) Field.admits_reread fs)
  case columns =>
    exact .of_map rfl fun cs => admits_nullable_of
      (admits_models_reread (by simp [published]) Column.admits_reread cs)
  case style =>
    exact .of_map rfl (admits_model_reread (by simp [published]) StyleOverride.admits_reread)
  case conditional =>
    exact .of_map rfl (admits_model_reread (by simp [published]) Condition.admits_reread)

theorem Metadata.admits_reread (m : Metadata) :
    metadataDefinition.Admits published.documents (m.toValue.reread storedValue) := by
  refine admits_model (.cons ?author (.cons ?tags .nil)) (by simp)
  case author => exact .of_map rfl admits_nullable_text_reread
  case tags =>
    exact .of_map rfl fun ts => admits_nullable_of (admits_list_reread admits_text_reread ts)

/-- What a template is stored as is an instance of the published schema. -/
theorem Template.isInstanceOf_stored (t : Template) : IsInstanceOf published.toValue t.stored := by
  rw [Published.isInstanceOf_toValue]
  refine admits_model (.cons ?id (.cons ?name (.cons ?version (.cons ?description (.cons ?category
    (.cons ?createdAt (.cons ?updatedAt (.cons ?sections (.cons ?fields
    (.cons ?metadata .nil)))))))))) (by simp)
  case id | name | version => exact .of_some (admits_text_reread _)
  case description | category | createdAt | updatedAt =>
    exact .of_map rfl admits_nullable_text_reread
  case sections =>
    exact .of_some (admits_models_reread (by simp [published]) TemplateSection.admits_reread _)
  case fields => exact .of_some (admits_models_reread (by simp [published]) Field.admits_reread _)
  case metadata =>
    exact .of_map rfl (admits_model_reread (by simp [published]) Metadata.admits_reread)

end Writing

/-! ## What is read -/

section Reading

/-- A reference is read as what is defined under its name. -/
theorem isReadBy_reference {α : Type} {name : String} {d : Definition} {read : Value → Checked α}
    (defined : (name, d) ∈ published.definitions)
    (h : d.IsReadBy published.documents published.names read) :
    (Shape.reference name).IsReadBy published.documents published.names read :=
  fun v plain admits => h v plain ((admits_published_reference defined).mp admits)

theorem Scalar.isReadBy :
    (Shape.anyOf [.text, .integer, .number, .boolean, .null]).IsReadBy published.documents
      published.names (readNullable Scalar.read) := by
  intro v _ admits
  cases v with
  | null => exact Checked.isAccepted_accepted none
  | bool b => exact ⟨some (.bool b), rfl⟩
  | int i => exact ⟨some (.int i), rfl⟩
  | float x => exact ⟨some (.float x), rfl⟩
  | text s => exact ⟨some (.text s), rfl⟩
  | list items | object entries => simp at admits

theorem FieldOption.isReadBy :
    optionDefinition.IsReadBy published.documents published.names FieldOption.read := by
  refine isReadBy_readModel fun entries plain kept => ?_
  simp only [List.forall_mem_cons] at kept
  obtain ⟨label, value, -⟩ := kept
  simp only [Checked.isAccepted_seq, Checked.isAccepted_map]
  exact ⟨isAccepted_required plain label rfl rfl isReadBy_text,
    isAccepted_required plain value rfl rfl isReadBy_text⟩

theorem FieldRules.isReadBy :
    rulesDefinition.IsReadBy published.documents published.names FieldRules.read := by
  refine isReadBy_readModel fun entries plain kept => ?_
  simp only [List.forall_mem_cons] at kept
  obtain ⟨min, max, pattern, message, -⟩ := kept
  simp only [Checked.isAccepted_seq, Checked.isAccepted_map, and_assoc]
  exact ⟨isAccepted_optional plain min rfl (.inl rfl) rfl isReadBy_number,
    isAccepted_optional plain max rfl (.inl rfl) rfl isReadBy_number,
    isAccepted_optional plain pattern rfl (.inl rfl) rfl isReadBy_text,
    isAccepted_optional plain message rfl (.inl rfl) rfl isReadBy_text⟩

/-- What fits the definition of fields is read as a field. -/
theorem Field.isReadBy :
    fieldDefinition.IsReadBy published.documents published.names Field.read := by
  have types : (Shape.reference "FieldType").IsReadBy published.documents published.names
      (readChoice FieldType.named) :=
    isReadBy_reference (by simp [published]; rfl) isReadBy_choice
  have options : (Shape.list (.reference "FieldOption")).IsReadBy published.documents
      published.names (readList FieldOption.read) :=
    isReadBy_list (isReadBy_reference (by simp [published]) FieldOption.isReadBy)
  have rules : (Shape.reference "FieldValidation").IsReadBy published.documents published.names
      FieldRules.read := isReadBy_reference (by simp [published]) FieldRules.isReadBy
  refine isReadBy_readModel fun entries plain kept => ?_
  simp only [List.forall_mem_cons] at kept
  obtain ⟨id, key, label, type, required, default, placeholder, offered, validation, -⟩ := kept
  simp only [Checked.isAccepted_seq, Checked.isAccepted_map, and_assoc]
  exact ⟨isAccepted_required plain id rfl rfl isReadBy_text,
    isAccepted_required plain key rfl rfl isReadBy_text,
    isAccepted_required plain label rfl rfl isReadBy_text,
    isAccepted_defaulted plain type rfl (.inl rfl) types,
    isAccepted_defaulted plain required rfl (.inl rfl) isReadBy_boolean,
    isAccepted_defaulted plain default rfl (.inr (by decide)) Scalar.isReadBy,
    isAccepted_optional plain placeholder rfl (.inl rfl) rfl isReadBy_text,
    isAccepted_optional plain offered rfl (.inl rfl) rfl options,
    isAccepted_optional plain validation rfl (.inl rfl) rfl rules⟩

theorem Column.isReadBy :
    columnDefinition.IsReadBy published.documents published.names Column.read := by
  have types : (Shape.reference "ColumnType").IsReadBy published.documents published.names
      (readChoice ColumnType.named) :=
    isReadBy_reference (by simp [published]; rfl) isReadBy_choice
  refine isReadBy_readModel fun entries plain kept => ?_
  simp only [List.forall_mem_cons] at kept
  obtain ⟨id, key, label, type, width, -⟩ := kept
  simp only [Checked.isAccepted_seq, Checked.isAccepted_map, and_assoc]
  exact ⟨isAccepted_required plain id rfl rfl isReadBy_text,
    isAccepted_required plain key rfl rfl isReadBy_text,
    isAccepted_required plain label rfl rfl isReadBy_text,
    isAccepted_defaulted plain type rfl (.inl rfl) types,
    isAccepted_optional plain width rfl (.inl rfl) rfl isReadBy_text⟩

theorem StyleOverride.isReadBy :
    styleDefinition.IsReadBy published.documents published.names StyleOverride.read := by
  refine isReadBy_readModel fun entries plain kept => ?_
  simp only [List.forall_mem_cons] at kept
  obtain ⟨size, weight, align, top, bottom, -⟩ := kept
  simp only [Checked.isAccepted_seq, Checked.isAccepted_map, and_assoc]
  exact ⟨isAccepted_optional plain size rfl (.inr (by decide)) rfl isReadBy_number,
    isAccepted_optional plain weight rfl (.inr (by decide)) rfl isReadBy_text,
    isAccepted_optional plain align rfl (.inr (by decide)) rfl isReadBy_text,
    isAccepted_optional plain top rfl (.inr (by decide)) rfl isReadBy_number,
    isAccepted_optional plain bottom rfl (.inr (by decide)) rfl isReadBy_number⟩

theorem Condition.isReadBy :
    conditionDefinition.IsReadBy published.documents published.names Condition.read := by
  refine isReadBy_readModel fun entries plain kept => ?_
  simp only [List.forall_mem_cons] at kept
  obtain ⟨showIf, hideIf, -⟩ := kept
  simp only [Checked.isAccepted_seq, Checked.isAccepted_map]
  exact ⟨isAccepted_optional plain showIf rfl (.inr (by decide)) rfl isReadBy_text,
    isAccepted_optional plain hideIf rfl (.inr (by decide)) rfl isReadBy_text⟩

/-- What fits the definition of sections is read as a section. -/
theorem TemplateSection.isReadBy :
    sectionDefinition.IsReadBy published.documents published.names TemplateSection.read := by
  have fields : (Shape.list (.reference "TemplateField")).IsReadBy published.documents
      published.names (readList Field.read) :=
    isReadBy_list (isReadBy_reference (by simp [published]) Field.isReadBy)
  have columns : (Shape.list (.reference "TableColumn")).IsReadBy published.documents
      published.names (readList Column.read) :=
    isReadBy_list (isReadBy_reference (by simp [published]) Column.isReadBy)
  have style : (Shape.reference "SectionStyle").IsReadBy published.documents published.names
      StyleOverride.read := isReadBy_reference (by simp [published]) StyleOverride.isReadBy
  have condition : (Shape.reference "SectionConditional").IsReadBy published.documents
      published.names Condition.read :=
    isReadBy_reference (by simp [published]) Condition.isReadBy
  refine isReadBy_readModel fun entries plain kept => ?_
  simp only [List.forall_mem_cons] at kept
  obtain ⟨id, type, title, content, declared, headed, styled, conditional, -⟩ := kept
  simp only [Checked.isAccepted_seq, Checked.isAccepted_map, and_assoc]
  exact ⟨isAccepted_required plain id rfl rfl isReadBy_text,
    isAccepted_required plain type rfl rfl isReadBy_text,
    isAccepted_optional plain title rfl (.inl rfl) rfl isReadBy_text,
    isAccepted_optional plain content rfl (.inl rfl) rfl isReadBy_text,
    isAccepted_optional plain declared rfl (.inl rfl) rfl fields,
    isAccepted_optional plain headed rfl (.inl rfl) rfl columns,
    isAccepted_optional plain styled rfl (.inl rfl) rfl style,
    isAccepted_optional plain conditional rfl (.inl rfl) rfl condition⟩

theorem Metadata.isReadBy :
    metadataDefinition.IsReadBy published.documents published.names Metadata.read := by
  refine isReadBy_readModel fun entries plain kept => ?_
  simp only [List.forall_mem_cons] at kept
  obtain ⟨author, tags, -⟩ := kept
  simp only [Checked.isAccepted_seq, Checked.isAccepted_map]
  exact ⟨isAccepted_optional plain author rfl (.inl rfl) rfl isReadBy_text,
    isAccepted_optional plain tags rfl (.inl rfl) rfl (isReadBy_list isReadBy_text)⟩

/-- What fits the definition of templates is read as a template. -/
theorem Template.isReadBy :
    templateDefinition.IsReadBy published.documents published.names Template.read := by
  have sections : (Shape.list (.reference "TemplateSection")).IsReadBy published.documents
      published.names (readList TemplateSection.read) :=
    isReadBy_list (isReadBy_reference (by simp [published]) TemplateSection.isReadBy)
  have fields : (Shape.list (.reference "TemplateField")).IsReadBy published.documents
      published.names (readList Field.read) :=
    isReadBy_list (isReadBy_reference (by simp [published]) Field.isReadBy)
  have metadata : (Shape.reference "TemplateMetadata").IsReadBy published.documents
      published.names Metadata.read :=
    isReadBy_reference (by simp [published]) Metadata.isReadBy
  refine isReadBy_readModel fun entries plain kept => ?_
  simp only [List.forall_mem_cons] at kept
  obtain ⟨id, name, version, description, category, createdAt, updatedAt, ordered, declared, known,
    -⟩ := kept
  simp only [Checked.isAccepted_seq, Checked.isAccepted_map, and_assoc]
  exact ⟨isAccepted_required plain id rfl rfl isReadBy_text,
    isAccepted_required plain name rfl rfl isReadBy_text,
    isAccepted_defaulted plain version rfl (.inl rfl) isReadBy_text,
    isAccepted_optional plain description rfl (.inl rfl) rfl isReadBy_text,
    isAccepted_optional plain category rfl (.inl rfl) rfl isReadBy_text,
    isAccepted_optional plain createdAt rfl (.inr (by decide)) rfl isReadBy_text,
    isAccepted_optional plain updatedAt rfl (.inr (by decide)) rfl isReadBy_text,
    isAccepted_defaulted plain ordered rfl (.inl rfl) sections,
    isAccepted_defaulted plain declared rfl (.inl rfl) fields,
    isAccepted_optional plain known rfl (.inl rfl) rfl metadata⟩

end Reading

namespace Template

theorem result_loadEntries_of_read {entries : List (String × Value)} {t : Template}
    (accepted : Template.read (.object entries) = .accepted t) :
    (loadEntries entries).result = .ok t := by
  rw [loadEntries, accepted]
  rfl

/-- The published schema, storing and loading agree. Every template is stored as the text of a
JSON value that is an instance of the schema; that value is also what the text is read as, unless
an integer in it is too long for that. And every object that is an instance of the schema is
loaded if the names in it, at any depth, are among those that the schema declares and the numbers
in it fit into binary ones: as it is, from every text and from all bytes that are read as it. -/
theorem published_schema_agrees :
    (∀ (t : Template) (indent : Option Nat),
      Json.print (storedStyle indent) t.stored = t.dump indent ∧ t.stored.IsFinite ∧
        ((∀ i ∈ t.integers, Value.isShowableInt i = true) →
          Json.readText (t.dump indent) = .ok t.stored) ∧
        IsInstanceOf published.toValue t.stored) ∧
    ∀ entries, IsInstanceOf published.toValue (.object entries) →
      (Value.object entries).IsPlain published.names →
      ∃ t, (load (.object entries)).result = .ok t ∧
        (∀ s, Json.readText s = .ok (.object entries) → (load (.text s)).result = .ok t) ∧
        ∀ bytes cs, Text.decodeDetected bytes = .ok cs →
          Json.readChars cs = .ok (.object entries) → (loadBytes bytes).result = .ok t := by
  refine ⟨fun t indent => ?_, fun entries fits plain => ?_⟩
  · exact ⟨t.print_stored indent, t.isFinite_stored, fun shown => readText_dump shown indent,
      t.isInstanceOf_stored⟩
  · rw [Published.isInstanceOf_toValue] at fits
    obtain ⟨t, accepted⟩ := Template.isReadBy _ plain fits
    have loaded := result_loadEntries_of_read accepted
    refine ⟨t, loaded, fun s read => ?_, fun bytes cs decoded read => ?_⟩
    · rw [load, loadText, read]
      exact loaded
    · rw [loadBytes, decoded]
      simp only
      rw [read]
      exact loaded

/-- A document that no template is stored as: a description is null, a bound is an integer, and
the version and the sections are left to their defaults. -/
theorem published_schema_agrees_bound :
    let rules : Value := .object [("min", .int 1), ("message", .null)]
    let field : Value := .object
      [("key", .text "qty"), ("id", .text "f"), ("label", .text "Quantity"),
       ("type", .text "number"), ("validation", rules)]
    let entries : List (String × Value) :=
      [("id", .text "t"), ("name", .text "Order"), ("description", .null), ("fields", .list [field])]
    let t : Template :=
      { id := "t", name := "Order",
        fields :=
          [{ id := "f", key := "qty", label := "Quantity", type := .number,
             rules := some { min := some (Binary64.ofInt 1) } }] }
    IsInstanceOf published.toValue (.object entries) ∧
      (Value.object entries).IsPlain published.names ∧ (load (.object entries)).result = .ok t := by
  intro rules field entries t
  have null {shape : Shape} : shape.nullable.Admits published.documents .null :=
    admits_nullable.mpr (.inr rfl)
  have text (s : String) : Shape.text.Admits published.documents (.text s) :=
    admits_text.mpr ⟨s, rfl⟩
  have ruled : rulesDefinition.Admits published.documents rules := by
    refine ⟨_, rfl, List.forall_mem_cons.mpr ⟨?min, ?others⟩⟩
    case min => exact .of_lookup rfl (admits_nullable_of (admits_number.mpr (.inl ⟨1, rfl⟩)))
    case others =>
      simp only [List.forall_mem_cons]
      exact ⟨.of_absent rfl rfl, .of_absent rfl rfl, .of_lookup rfl null, List.forall_mem_nil _⟩
  have typed : fieldTypeDefinition.Admits published.documents (.text "number") :=
    ⟨"number", by decide, rfl⟩
  have declared : fieldDefinition.Admits published.documents field := by
    refine ⟨_, rfl, ?_⟩
    simp only [List.forall_mem_cons]
    refine ⟨.of_lookup rfl (text _), .of_lookup rfl (text _), .of_lookup rfl (text _),
      .of_lookup rfl ((admits_published_reference (by simp [published])).mpr typed),
      .of_absent rfl rfl, .of_absent rfl rfl, .of_absent rfl rfl, .of_absent rfl rfl, ?_,
      List.forall_mem_nil _⟩
    exact .of_lookup rfl
      (admits_nullable_of ((admits_published_reference (by simp [published])).mpr ruled))
  have listed : (Shape.list (.reference "TemplateField")).Admits published.documents
      (.list [field]) :=
    admits_list.mpr ⟨[field], rfl, List.forall_mem_singleton.mpr
      ((admits_published_reference (by simp [published])).mpr declared)⟩
  have fits : IsInstanceOf published.toValue (.object entries) := by
    rw [Published.isInstanceOf_toValue]
    refine ⟨entries, rfl, ?_⟩
    simp only [List.forall_mem_cons]
    exact ⟨.of_lookup rfl (text _), .of_lookup rfl (text _), .of_absent rfl rfl,
      .of_lookup rfl null, .of_absent rfl rfl, .of_absent rfl rfl, .of_absent rfl rfl,
      .of_absent rfl rfl, .of_lookup rfl listed, .of_absent rfl rfl, List.forall_mem_nil _⟩
  have one : (Binary64.ofInt 1).isFinite = true := by decide +kernel
  have rulesPlain : rules.IsPlain published.names := by
    refine .object (by decide) ?_
    simp only [List.forall_mem_cons]
    exact ⟨.int one, .null, List.forall_mem_nil _⟩
  have fieldPlain : field.IsPlain published.names := by
    refine .object (by decide) ?_
    simp only [List.forall_mem_cons]
    exact ⟨.text _, .text _, .text _, .text _, rulesPlain, List.forall_mem_nil _⟩
  have plain : (Value.object entries).IsPlain published.names := by
    refine .object (by decide) ?_
    simp only [entries, List.forall_mem_cons]
    exact ⟨.text _, .text _, .null, .list (List.forall_mem_singleton.mpr fieldPlain),
      List.forall_mem_nil _⟩
  obtain ⟨other, loaded, -⟩ := published_schema_agrees.2 entries fits plain
  have computed : (load (.object entries)).result.toOption = some t := by decide +kernel
  rw [loaded] at computed
  obtain rfl : other = t := Option.some.inj computed
  exact ⟨fits, plain, loaded⟩

end Template

end Stencil
