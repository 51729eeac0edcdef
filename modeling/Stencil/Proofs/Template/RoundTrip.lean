/-
# Stored templates are read back

The document of a template is read as the finite part of the template: every attribute is
found under the name it is stored by, and its value is read as what it was, except that
null stands for a number that is not finite. A template is therefore loaded from its stored
text exactly when every number in it is finite.
-/

import Stencil.Proofs.Json.RoundTrip
import Stencil.Proofs.Template.FinitePart
import Stencil.Template.Load

namespace Stencil

open Schema
open Json (storedValue storedStyle storedStyle_readsAs readText_print)

section Values

variable {α β : Type} {attributes : List (String × Option Value)} {entries : List (String × Value)}

/-- A stored number is read back if it is finite, and as nothing otherwise. -/
theorem readNullable_storedValue (read : Value → Checked β) (keep : Binary64 → β)
    (reads : ∀ x, read (.float x) = .accepted (keep x)) (x : Binary64) :
    readNullable read ((Value.float x).reread storedValue) = .accepted (x.finite?.map keep) := by
  rw [Value.reread, storedValue, Binary64.finite?]
  by_cases finite : x.isFinite = true
  · rw [if_pos finite, if_pos finite]
    exact readNullable_of_accepted rfl (reads x)
  · rw [if_neg finite, if_neg finite]
    rfl

/-- A stored list is read back item by item. -/
theorem readList_reread {read : Value → Checked β} {toValue : α → Value} {part : α → β}
    (each : ∀ x, read ((toValue x).reread storedValue) = .accepted (part x)) (xs : List α) :
    readList read ((Value.list (xs.map toValue)).reread storedValue) =
      .accepted (xs.map part) := by
  rw [Value.reread, Value.rereadItems_eq_map, List.map_map, readList]
  exact Checked.items_map each 0 xs

theorem required_text (holds : Holds storedValue attributes entries) (name : Name) (s : String)
    (mem : (name.stored, some (.text s)) ∈ attributes) :
    required entries name readText = .accepted s :=
  required_of_holds holds name (.text s) mem rfl

theorem optional_text (holds : Holds storedValue attributes entries) (name : Name)
    (s? : Option String) (mem : (name.stored, s?.map .text) ∈ attributes)
    (plain : name.plain = name.stored ∨ name.plain ∉ attributes.map Prod.fst) :
    optional entries name readText = .accepted s? := by
  rw [optional_of_holds holds name s? mem plain fun s => rfl, Option.bind_fun_some]

theorem optional_float (holds : Holds storedValue attributes entries) (name : Name)
    (x? : Option Binary64) (mem : (name.stored, x?.map .float) ∈ attributes)
    (plain : name.plain = name.stored ∨ name.plain ∉ attributes.map Prod.fst) :
    optional entries name readNumber = .accepted (x?.bind Binary64.finite?) := by
  refine optional_of_holds holds name x? mem plain fun x => ?_
  rw [readNullable_storedValue readNumber id (fun _ => rfl) x]
  exact congrArg _ Option.map_id'

/-- An attribute that holds a model is read as the part of the model that is read back. -/
theorem optional_part (holds : Holds storedValue attributes entries) (name : Name)
    {read : Value → Checked β} {toValue : α → Value} {part : α → β} (x? : Option α)
    (mem : (name.stored, x?.map toValue) ∈ attributes)
    (plain : name.plain = name.stored ∨ name.plain ∉ attributes.map Prod.fst)
    (present : ∀ x, ((toValue x).reread storedValue).isNull = false)
    (reads : ∀ x, read ((toValue x).reread storedValue) = .accepted (part x)) :
    optional entries name read = .accepted (x?.map part) := by
  rw [optional_of_holds holds name x? mem plain fun x =>
    readNullable_of_accepted (present x) (reads x)]
  exact congrArg _ Option.map_eq_bind.symm

end Values

theorem Scalar.readNullable_reread (scalar : Scalar) :
    readNullable Scalar.read (scalar.toValue.reread storedValue) = .accepted scalar.finite? := by
  cases scalar with
  | float x => exact readNullable_storedValue Scalar.read Scalar.float (fun _ => rfl) x
  | _ => rfl

theorem FieldOption.read_reread (o : FieldOption) :
    FieldOption.read (o.toValue.reread storedValue) = .accepted o := by
  have attributes : o.toValue =
      .object (presentEntries [("label", some (.text o.label)), ("value", some (.text o.value))]) :=
    rfl
  rw [attributes]
  refine readModel_of_holds (by simp) fun entries holds => ?_
  rw [required_text holds (.same "label") o.label (by simp),
    required_text holds (.same "value") o.value (by simp)]
  rfl

theorem FieldRules.read_reread (r : FieldRules) :
    FieldRules.read (r.toValue.reread storedValue) = .accepted r.finitePart := by
  refine readModel_of_holds (by simp) fun entries holds => ?_
  rw [optional_float holds (.same "min") r.min (by simp) (by simp),
    optional_float holds (.same "max") r.max (by simp) (by simp),
    optional_text holds (.same "pattern") r.pattern (by simp) (by simp),
    optional_text holds (.same "message") r.message (by simp) (by simp)]
  rfl

/-- The document of a field is read as the field without the numbers that are not
finite. -/
theorem Field.read_reread (f : Field) :
    Field.read (f.toValue.reread storedValue) = .accepted f.finitePart := by
  have type : readChoice FieldType.named (.text f.type.name) = .accepted f.type := by
    cases f.type <;> rfl
  have isRequired : readBoolean (.bool f.isRequired) = .accepted f.isRequired := rfl
  refine readModel_of_holds (by simp) fun entries holds => ?_
  rw [required_text holds (.same "id") f.id (by simp),
    required_text holds (.same "key") f.key (by simp),
    required_text holds (.same "label") f.label (by simp),
    defaulted_of_holds holds (.same "type") (.text f.type.name) (by simp) type,
    defaulted_of_holds holds (.same "required") (.bool f.isRequired) (by simp) isRequired,
    optional_of_holds holds ⟨"defaultValue", "default_value"⟩ f.defaultValue (by simp) (by simp)
      Scalar.readNullable_reread,
    optional_text holds (.same "placeholder") f.placeholder (by simp) (by simp),
    optional_part holds (.same "options") f.options (by simp) (by simp) (fun _ => rfl)
      (readList_reread FieldOption.read_reread),
    optional_part holds (.same "validation") f.rules (by simp) (by simp) (fun _ => rfl)
      FieldRules.read_reread]
  simp [finitePart]

theorem Column.read_reread (c : Column) :
    Column.read (c.toValue.reread storedValue) = .accepted c := by
  have type : readChoice ColumnType.named (.text c.type.name) = .accepted c.type := by
    cases c.type <;> rfl
  refine readModel_of_holds (by simp) fun entries holds => ?_
  rw [required_text holds (.same "id") c.id (by simp),
    required_text holds (.same "key") c.key (by simp),
    required_text holds (.same "label") c.label (by simp),
    defaulted_of_holds holds (.same "type") (.text c.type.name) (by simp) type,
    optional_text holds (.same "width") c.width (by simp) (by simp)]
  rfl

theorem StyleOverride.read_reread (s : StyleOverride) :
    StyleOverride.read (s.toValue.reread storedValue) = .accepted s.finitePart := by
  refine readModel_of_holds (by simp) fun entries holds => ?_
  rw [optional_float holds ⟨"fontSize", "font_size"⟩ s.fontSize (by simp) (by simp),
    optional_text holds ⟨"fontWeight", "font_weight"⟩ s.fontWeight (by simp) (by simp),
    optional_text holds ⟨"textAlign", "text_align"⟩ s.textAlign (by simp) (by simp),
    optional_float holds ⟨"marginTop", "margin_top"⟩ s.marginTop (by simp) (by simp),
    optional_float holds ⟨"marginBottom", "margin_bottom"⟩ s.marginBottom (by simp) (by simp)]
  rfl

theorem Condition.read_reread (c : Condition) :
    Condition.read (c.toValue.reread storedValue) = .accepted c := by
  refine readModel_of_holds (by simp) fun entries holds => ?_
  rw [optional_text holds ⟨"showIf", "show_if"⟩ c.showIf (by simp) (by simp),
    optional_text holds ⟨"hideIf", "hide_if"⟩ c.hideIf (by simp) (by simp)]
  rfl

/-- The document of a section is read as the section without the numbers that are not
finite. -/
theorem TemplateSection.read_reread (s : TemplateSection) :
    TemplateSection.read (s.toValue.reread storedValue) = .accepted s.finitePart := by
  refine readModel_of_holds (by simp) fun entries holds => ?_
  rw [required_text holds (.same "id") s.id (by simp),
    required_text holds ⟨"type", "kind"⟩ s.kindName (by simp),
    optional_text holds (.same "title") s.title (by simp) (by simp),
    optional_text holds (.same "content") s.content (by simp) (by simp),
    optional_part holds (.same "fields") s.fields (by simp) (by simp) (fun _ => rfl)
      (readList_reread Field.read_reread),
    optional_part holds (.same "columns") s.columns (by simp) (by simp) (fun _ => rfl)
      (readList_reread Column.read_reread),
    optional_part holds (.same "style") s.style (by simp) (by simp) (fun _ => rfl)
      StyleOverride.read_reread,
    optional_part holds (.same "conditional") s.condition (by simp) (by simp) (fun _ => rfl)
      Condition.read_reread]
  simp [finitePart]

theorem Metadata.read_reread (m : Metadata) :
    Metadata.read (m.toValue.reread storedValue) = .accepted m := by
  have tag : ∀ s, readText ((Value.text s).reread storedValue) = .accepted s := fun _ => rfl
  refine readModel_of_holds (by simp) fun entries holds => ?_
  rw [optional_text holds (.same "author") m.author (by simp) (by simp),
    optional_part holds (.same "tags") m.tags (by simp) (by simp) (fun _ => rfl)
      (readList_reread tag)]
  simp

namespace Template

variable {t : Template}

/-- The document of a template is read as the template without the numbers that are not
finite. -/
theorem read_reread (t : Template) :
    Template.read (t.toValue.reread storedValue) = .accepted t.finitePart := by
  refine readModel_of_holds (by simp) fun entries holds => ?_
  rw [required_text holds (.same "id") t.id (by simp),
    required_text holds (.same "name") t.name (by simp),
    defaulted_of_holds holds (.same "version") (.text t.version) (by simp)
      (rfl : readText _ = .accepted t.version),
    optional_text holds (.same "description") t.description (by simp) (by simp),
    optional_text holds (.same "category") t.category (by simp) (by simp),
    optional_text holds ⟨"createdAt", "created_at"⟩ t.createdAt (by simp) (by simp),
    optional_text holds ⟨"updatedAt", "updated_at"⟩ t.updatedAt (by simp) (by simp),
    defaulted_of_holds holds (.same "sections") (.list (t.sections.map TemplateSection.toValue))
      (by simp) (readList_reread TemplateSection.read_reread t.sections),
    defaulted_of_holds holds (.same "fields") (.list (t.fields.map Field.toValue)) (by simp)
      (readList_reread Field.read_reread t.fields),
    optional_part holds (.same "metadata") t.metadata (by simp) (by simp) (fun _ => rfl)
      Metadata.read_reread]
  simp [finitePart]

/-- What is loaded from the stored text of a template is its finite part. -/
theorem result_loadText_dump (shown : ∀ i ∈ t.integers, Value.isShowableInt i = true)
    (indent : Option Nat) : (loadText (t.dump indent)).result = .ok t.finitePart := by
  have showable : t.toValue.isShowable = true := by
    rw [isShowable_toValue, List.all_eq_true]
    exact shown
  have accepted := read_reread t
  rw [loadText, dump, readText_print (storedStyle_readsAs indent) showable]
  -- what is read is an object, whatever the entries are
  obtain ⟨entries, object⟩ : ∃ entries, t.toValue.reread storedValue = .object entries :=
    ⟨_, rfl⟩
  rw [object] at accepted ⊢
  rw [loadRead, loadEntries, accepted]
  rfl

/-- A template is loaded from its stored text, every default value with its type,
exactly when all the numbers in it are finite. -/
theorem load_dump_iff (shown : ∀ i ∈ t.integers, Value.isShowableInt i = true)
    (indent : Option Nat) :
    (load (.text (t.dump indent))).result = .ok t ↔ ∀ x ∈ t.numbers, x.isFinite = true := by
  rw [load, result_loadText_dump shown indent, Except.ok.injEq, finitePart_eq_self_iff]

/-- The text of a zero, both of its numbers and the boolean that counts as zero are told
apart in storage, and a margin without end is lost there. -/
theorem load_dump_zeros :
    let zeros : List Scalar := [.text "0", .int 0, .float .zero, .bool false]
    let plain : Template :=
      { id := "t", name := "n",
        fields := zeros.map fun zero =>
          { id := "f", key := "k", label := "L", defaultValue := some zero } }
    let wide : Template :=
      { plain with
        sections :=
          [{ id := "s", kindName := "body",
             style := some { marginTop := some (.infinite false) } }] }
    (∀ i ∈ plain.integers, Value.isShowableInt i = true) ∧
      (load (.text (plain.dump (some 2)))).result = .ok plain ∧
      (load (.text (wide.dump none))).result ≠ .ok wide := by
  intro zeros plain wide
  have shown : ∀ i ∈ plain.integers, Value.isShowableInt i = true := by
    intro i mem
    obtain rfl : i = 0 := List.mem_singleton.mp mem
    rw [Value.isShowableInt, decide_eq_true_eq]
    -- the limit becomes a variable, or the power of ten would be computed
    generalize 4300 = digits
    exact Nat.pow_pos (by decide)
  have finite : ∀ x ∈ plain.numbers, x.isFinite = true := by
    intro x mem
    obtain rfl : x = .zero := List.mem_singleton.mp mem
    rfl
  refine ⟨shown, (load_dump_iff shown (some 2)).mpr finite, fun kept => ?_⟩
  have all := (load_dump_iff (t := wide) shown none).mp kept (.infinite false) (.head _)
  cases all

end Template

end Stencil
