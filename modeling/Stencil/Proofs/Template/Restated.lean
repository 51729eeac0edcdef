/-
# Only the meaning of a template counts

Each model lists its attributes with both of their names and says which of them are made of
models again. This is all that a template document means: one that restates another is refused
with it, or is read as the same template, which is then stored as the same text.
-/

import Stencil.Proofs.Log.Trace
import Stencil.Proofs.Schema.Restated
import Stencil.Template.Encode
import Stencil.Template.Load

namespace Stencil

open Schema

/-! ## What models mean -/

/-- When an option restates another one. -/
def FieldOption.Restates : Value → Value → Prop :=
  RestatesModel [.plain (.same "label"), .plain (.same "value")]

/-- When the constraints of a field restate other ones. -/
def FieldRules.Restates : Value → Value → Prop :=
  RestatesModel
    [.plain (.same "min"), .plain (.same "max"), .plain (.same "pattern"),
     .plain (.same "message")]

/-- When a field restates another one. -/
def Field.Restates : Value → Value → Prop :=
  RestatesModel
    [.plain (.same "id"), .plain (.same "key"), .plain (.same "label"), .plain (.same "type"),
     .plain (.same "required"), .plain ⟨"defaultValue", "default_value"⟩,
     .plain (.same "placeholder"), ⟨.same "options", RestatesList FieldOption.Restates⟩,
     ⟨.same "validation", FieldRules.Restates⟩]

/-- When a column restates another one. -/
def Column.Restates : Value → Value → Prop :=
  RestatesModel
    [.plain (.same "id"), .plain (.same "key"), .plain (.same "label"), .plain (.same "type"),
     .plain (.same "width")]

/-- When what a section changes in its style restates another change. -/
def StyleOverride.Restates : Value → Value → Prop :=
  RestatesModel
    [.plain ⟨"fontSize", "font_size"⟩, .plain ⟨"fontWeight", "font_weight"⟩,
     .plain ⟨"textAlign", "text_align"⟩, .plain ⟨"marginTop", "margin_top"⟩,
     .plain ⟨"marginBottom", "margin_bottom"⟩]

/-- When a condition restates another one. -/
def Condition.Restates : Value → Value → Prop :=
  RestatesModel [.plain ⟨"showIf", "show_if"⟩, .plain ⟨"hideIf", "hide_if"⟩]

/-- When a section restates another one. -/
def TemplateSection.Restates : Value → Value → Prop :=
  RestatesModel
    [.plain (.same "id"), .plain ⟨"type", "kind"⟩, .plain (.same "title"),
     .plain (.same "content"), ⟨.same "fields", RestatesList Field.Restates⟩,
     ⟨.same "columns", RestatesList Column.Restates⟩, ⟨.same "style", StyleOverride.Restates⟩,
     ⟨.same "conditional", Condition.Restates⟩]

/-- When the metadata of a template restate other ones. -/
def Metadata.Restates : Value → Value → Prop :=
  RestatesModel [.plain (.same "author"), ⟨.same "tags", RestatesList RestatesPlain⟩]

/-- When a template document restates another one. -/
def Template.Restates : Value → Value → Prop :=
  RestatesModel
    [.plain (.same "id"), .plain (.same "name"), .plain (.same "version"),
     .plain (.same "description"), .plain (.same "category"),
     .plain ⟨"createdAt", "created_at"⟩, .plain ⟨"updatedAt", "updated_at"⟩,
     ⟨.same "sections", RestatesList TemplateSection.Restates⟩,
     ⟨.same "fields", RestatesList Field.Restates⟩, ⟨.same "metadata", Metadata.Restates⟩]

/-! ## Models are read by their meaning -/

section Attributes

variable {α : Type} {parts : List Part} {es fs : List (String × Value)} {read : Value → Checked α}

theorem agrees_required_plain (entries : RestatesEntries parts es fs) (name : Name)
    (mem : Part.plain name ∈ parts) (respects : Respects RestatesPlain read) :
    (required es name read).Agrees (required fs name read) :=
  entries.required (.plain name) mem respects

theorem agrees_defaulted_plain (entries : RestatesEntries parts es fs) (name : Name)
    (mem : Part.plain name ∈ parts) (absent : α) (respects : Respects RestatesPlain read) :
    (defaulted es name absent read).Agrees (defaulted fs name absent read) :=
  entries.defaulted (.plain name) mem absent respects

theorem agrees_optional_plain (entries : RestatesEntries parts es fs) (name : Name)
    (mem : Part.plain name ∈ parts) (respects : Respects RestatesPlain read) :
    (optional es name read).Agrees (optional fs name read) :=
  entries.optional (.plain name) mem respects isNull_eq_of_restatesPlain

theorem agrees_optional_list {restates : Value → Value → Prop}
    (entries : RestatesEntries parts es fs) (name : Name)
    (mem : ⟨name, RestatesList restates⟩ ∈ parts) (respects : Respects restates read) :
    (optional es name (readList read)).Agrees (optional fs name (readList read)) :=
  entries.optional ⟨name, RestatesList restates⟩ mem (respects_list respects)
    isNull_eq_of_restatesList

theorem agrees_optional_model {others : List Part} (entries : RestatesEntries parts es fs)
    (name : Name) (mem : ⟨name, RestatesModel others⟩ ∈ parts)
    (respects : Respects (RestatesModel others) read) :
    (optional es name read).Agrees (optional fs name read) :=
  entries.optional ⟨name, RestatesModel others⟩ mem respects isNull_eq_of_restatesModel

end Attributes

theorem Scalar.respects : Respects RestatesPlain Scalar.read :=
  respects_plain (fun _ => ⟨_, rfl⟩) fun _ => ⟨_, rfl⟩

theorem FieldOption.respects : Respects Restates FieldOption.read := by
  refine respects_model fun es fs entries => ?_
  refine (Checked.Agrees.map _ ?_).seq ?_
  · exact agrees_required_plain entries (.same "label") (by simp) respects_text
  · exact agrees_required_plain entries (.same "value") (by simp) respects_text

theorem FieldRules.respects : Respects Restates FieldRules.read := by
  refine respects_model fun es fs entries => ?_
  refine (((Checked.Agrees.map _ ?_).seq ?_).seq ?_).seq ?_
  · exact agrees_optional_plain entries (.same "min") (by simp) respects_number
  · exact agrees_optional_plain entries (.same "max") (by simp) respects_number
  · exact agrees_optional_plain entries (.same "pattern") (by simp) respects_text
  · exact agrees_optional_plain entries (.same "message") (by simp) respects_text

theorem Field.respects : Respects Restates Field.read := by
  refine respects_model fun es fs entries => ?_
  refine ((((((((Checked.Agrees.map _ ?_).seq ?_).seq ?_).seq ?_).seq ?_).seq ?_).seq ?_).seq
    ?_).seq ?_
  · exact agrees_required_plain entries (.same "id") (by simp) respects_text
  · exact agrees_required_plain entries (.same "key") (by simp) respects_text
  · exact agrees_required_plain entries (.same "label") (by simp) respects_text
  · exact agrees_defaulted_plain entries (.same "type") (by simp) FieldType.text
      respects_choice
  · exact agrees_defaulted_plain entries (.same "required") (by simp) false respects_boolean
  · exact agrees_optional_plain entries ⟨"defaultValue", "default_value"⟩ (by simp) Scalar.respects
  · exact agrees_optional_plain entries (.same "placeholder") (by simp) respects_text
  · exact agrees_optional_list entries (.same "options") (by simp) FieldOption.respects
  · exact agrees_optional_model entries (.same "validation") (by simp [FieldRules.Restates])
      FieldRules.respects

theorem Column.respects : Respects Restates Column.read := by
  refine respects_model fun es fs entries => ?_
  refine ((((Checked.Agrees.map _ ?_).seq ?_).seq ?_).seq ?_).seq ?_
  · exact agrees_required_plain entries (.same "id") (by simp) respects_text
  · exact agrees_required_plain entries (.same "key") (by simp) respects_text
  · exact agrees_required_plain entries (.same "label") (by simp) respects_text
  · exact agrees_defaulted_plain entries (.same "type") (by simp) ColumnType.text
      respects_choice
  · exact agrees_optional_plain entries (.same "width") (by simp) respects_text

theorem StyleOverride.respects : Respects Restates StyleOverride.read := by
  refine respects_model fun es fs entries => ?_
  refine ((((Checked.Agrees.map _ ?_).seq ?_).seq ?_).seq ?_).seq ?_
  · exact agrees_optional_plain entries ⟨"fontSize", "font_size"⟩ (by simp) respects_number
  · exact agrees_optional_plain entries ⟨"fontWeight", "font_weight"⟩ (by simp) respects_text
  · exact agrees_optional_plain entries ⟨"textAlign", "text_align"⟩ (by simp) respects_text
  · exact agrees_optional_plain entries ⟨"marginTop", "margin_top"⟩ (by simp) respects_number
  · exact agrees_optional_plain entries ⟨"marginBottom", "margin_bottom"⟩ (by simp)
      respects_number

theorem Condition.respects : Respects Restates Condition.read := by
  refine respects_model fun es fs entries => ?_
  refine (Checked.Agrees.map _ ?_).seq ?_
  · exact agrees_optional_plain entries ⟨"showIf", "show_if"⟩ (by simp) respects_text
  · exact agrees_optional_plain entries ⟨"hideIf", "hide_if"⟩ (by simp) respects_text

theorem TemplateSection.respects : Respects Restates TemplateSection.read := by
  refine respects_model fun es fs entries => ?_
  refine (((((((Checked.Agrees.map _ ?_).seq ?_).seq ?_).seq ?_).seq ?_).seq ?_).seq ?_).seq ?_
  · exact agrees_required_plain entries (.same "id") (by simp) respects_text
  · exact agrees_required_plain entries ⟨"type", "kind"⟩ (by simp) respects_text
  · exact agrees_optional_plain entries (.same "title") (by simp) respects_text
  · exact agrees_optional_plain entries (.same "content") (by simp) respects_text
  · exact agrees_optional_list entries (.same "fields") (by simp) Field.respects
  · exact agrees_optional_list entries (.same "columns") (by simp) Column.respects
  · exact agrees_optional_model entries (.same "style") (by simp [StyleOverride.Restates])
      StyleOverride.respects
  · exact agrees_optional_model entries (.same "conditional") (by simp [Condition.Restates])
      Condition.respects

theorem Metadata.respects : Respects Restates Metadata.read := by
  refine respects_model fun es fs entries => ?_
  refine (Checked.Agrees.map _ ?_).seq ?_
  · exact agrees_optional_plain entries (.same "author") (by simp) respects_text
  · exact agrees_optional_list entries (.same "tags") (by simp) respects_text

namespace Template

theorem respects : Respects Restates Template.read := by
  refine respects_model fun es fs entries => ?_
  refine (((((((((Checked.Agrees.map _ ?_).seq ?_).seq ?_).seq ?_).seq ?_).seq ?_).seq ?_).seq
    ?_).seq ?_).seq ?_
  · exact agrees_required_plain entries (.same "id") (by simp) respects_text
  · exact agrees_required_plain entries (.same "name") (by simp) respects_text
  · exact agrees_defaulted_plain entries (.same "version") (by simp) "1.0.0" respects_text
  · exact agrees_optional_plain entries (.same "description") (by simp) respects_text
  · exact agrees_optional_plain entries (.same "category") (by simp) respects_text
  · exact agrees_optional_plain entries ⟨"createdAt", "created_at"⟩ (by simp) respects_text
  · exact agrees_optional_plain entries ⟨"updatedAt", "updated_at"⟩ (by simp) respects_text
  · exact entries.defaulted ⟨.same "sections", RestatesList TemplateSection.Restates⟩ (by simp) []
      (respects_list TemplateSection.respects)
  · exact entries.defaulted ⟨.same "fields", RestatesList Field.Restates⟩ (by simp) []
      (respects_list Field.respects)
  · exact agrees_optional_model entries (.same "metadata") (by simp [Metadata.Restates])
      Metadata.respects

/-- Of two decoded documents that restate each other, both are refused as templates, or both are
loaded as the same template, which has the same stored text. -/
theorem load_restated {es fs : List (String × Value)}
    (restated : Restates (.object es) (.object fs)) :
    (∃ issues others, (load (.object es)).result = .error (.templateRefused issues) ∧
      (load (.object fs)).result = .error (.templateRefused others)) ∨
    ∃ t u, (load (.object es)).result = .ok t ∧ (load (.object fs)).result = .ok u ∧ t = u ∧
      ∀ indent, t.dump indent = u.dump indent := by
  have agrees := respects _ _ restated
  rw [load, load, loadEntries, loadEntries]
  generalize Template.read (.object es) = first at agrees
  generalize Template.read (.object fs) = second at agrees
  cases agrees with
  | accepted t => exact .inr ⟨t, t, rfl, rfl, rfl, fun _ => rfl⟩
  | refused issues others => exact .inl ⟨issues, others, rfl, rfl⟩

/-- A document, and the same one turned around, with plain names and with keys that mean nothing
where they stand. -/
theorem load_restated_turned :
    let style : Value := .object [("fontSize", .float .nan), ("marginTop", .text " 4 ")]
    let restyle : Value :=
      .object [("margin_top", .text " 4 "), ("font_size", .float .nan), ("label", .null)]
    let body : Value := .object [("id", .text "s"), ("type", .text "body"), ("style", style)]
    let rebody : Value :=
      .object
        [("style", restyle), ("kind", .text "body"), ("name", .list [.null]), ("id", .text "s")]
    let es : List (String × Value) :=
      [("id", .text "t"), ("name", .text "n"), ("createdAt", .text "today"),
       ("sections", .list [body])]
    let fs : List (String × Value) :=
      [("sections", .list [rebody]), ("type", .int 1), ("name", .text "n"), ("id", .text "t"),
       ("created_at", .text "today")]
    Restates (.object es) (.object fs) ∧
      ∃ t, (load (.object es)).result = .ok t ∧ (load (.object fs)).result = .ok t := by
  intro style restyle body rebody es fs
  have styles : StyleOverride.Restates style restyle := by
    refine .object ⟨⟨by decide, by simp [Part.plain]⟩, ⟨by decide, by simp [Part.plain]⟩, ?_⟩
    simp only [List.forall_mem_cons]
    refine ⟨.present (.inl ?_) (.inr ?_) (.same (.float .nan)), .absent ?_ ?_, .absent ?_ ?_,
      .present (.inl ?_) (.inr ?_) (.same (.text " 4 ")), .absent ?_ ?_, List.forall_mem_nil _⟩
    all_goals simp [HoldsUnder, Part.plain]
  have sections : TemplateSection.Restates body rebody := by
    refine .object ⟨⟨by decide, by simp [Part.plain, Name.same]⟩,
      ⟨by decide, by simp [Part.plain, Name.same]⟩, ?_⟩
    simp only [List.forall_mem_cons]
    refine ⟨.present (.inl ?_) (.inl ?_) (.same (.text "s")),
      .present (.inl ?_) (.inr ?_) (.same (.text "body")), .absent ?_ ?_, .absent ?_ ?_,
      .absent ?_ ?_, .absent ?_ ?_, .present (.inl ?_) (.inl ?_) styles, .absent ?_ ?_,
      List.forall_mem_nil _⟩
    all_goals simp [HoldsUnder, Part.plain, Name.same]
  have restated : Restates (.object es) (.object fs) := by
    refine .object ⟨⟨by decide, by simp [Part.plain, Name.same, es]⟩,
      ⟨by decide, by simp [Part.plain, Name.same, fs]⟩, ?_⟩
    simp only [List.forall_mem_cons]
    refine ⟨.present (.inl ?_) (.inl ?_) (.same (.text "t")),
      .present (.inl ?_) (.inl ?_) (.same (.text "n")), .absent ?_ ?_, .absent ?_ ?_,
      .absent ?_ ?_, .present (.inl ?_) (.inr ?_) (.same (.text "today")), .absent ?_ ?_,
      .present (.inl ?_) (.inl ?_) (.list (.cons sections .nil)), .absent ?_ ?_, .absent ?_ ?_,
      List.forall_mem_nil _⟩
    all_goals simp [HoldsUnder, Part.plain, Name.same, es, fs]
  refine ⟨restated, ?_⟩
  have loaded : (load (.object es)).result.toOption.map Template.id = some "t" := by decide
  obtain ⟨t, first, -⟩ := eq_ok_of_toOption_map loaded
  rcases load_restated restated with ⟨issues, -, refused, -⟩ | ⟨u, v, found, second, same, -⟩
  · rw [refused] at first
    cases first
  · exact ⟨u, found, same ▸ second⟩

end Template

end Stencil
