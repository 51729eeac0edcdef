/-
# What the node of a section shows

A record has one text for each key: the display text of its value, and none if the value
is missing, null or the empty text. Tokens, the lines of detail sections and those of
signature sections all show this text. A renderer that has a result has either a node that
shows what is said here, or, as a table without columns, none.
-/

import Stencil.Proofs.Placeholder.Split
import Stencil.Proofs.Render.Yields
import Stencil.Render.Document

namespace Stencil

/-- The text that a record has for a key, none if its value is missing, null or empty. -/
def Record.shown? (data : Record) (key : String) : Option String :=
  match data.value key with
  | .null | .text "" => none
  | v => some v.displayText

namespace Record

variable {data : Record} {key : String}

theorem shown?_of_isPresent (present : (data.value key).isPresent = true) :
    data.shown? key = some (data.value key).displayText := by
  unfold shown?
  split <;> simp_all [Value.isPresent]

theorem shown?_of_not_isPresent (absent : (data.value key).isPresent = false) :
    data.shown? key = none := by
  obtain null | empty := Value.isPresent_eq_false_iff.mp absent
  · simp [shown?, null]
  · simp [shown?, empty]

end Record

namespace Placeholder

variable {content : Option String} {data : Record} {text : String}

/-- A token shows the text that the record has for its key, or else its default text. -/
theorem Token.shown_eq_elim (t : Token) (data : Record) :
    t.shown data = (data.shown? t.name).elim (t.fallback.getD []) String.toList := by
  cases present : (data.value t.name).isPresent with
  | true => rw [Token.shown_of_isPresent present, Record.shown?_of_isPresent present, Option.elim]
  | false =>
      rw [Token.shown_of_not_isPresent present, Record.shown?_of_not_isPresent present, Option.elim]

/-- A text becomes what its split shows: its literal pieces as they are, and for each token
what that shows. -/
def Becomes (content : Option String) (data : Record) (text : String) : Prop :=
  ∃ split : Split, split.IsSplitOf (content.getD "") ∧ text = String.ofList (split.shown data)

theorem becomes_of_substituteOptional [Machine]
    (done : substituteOptional content data = .ok text) :
    Becomes content data text := by
  obtain ⟨split, whole, -⟩ := Split.existsUnique_isSplitOf (content.getD "")
  obtain ⟨texts, resolved, rfl⟩ := map_eq_ok.mp done
  refine ⟨split, whole, congrArg String.ofList ?_⟩
  rw [whole.pieces_eq] at resolved
  rw [← Split.flatMap_shown_pieces, (resolvePieces_eq_ok_iff.mp resolved).2]

end Placeholder

namespace Render

variable {data : Record} {f : Field} {fields : List Field}

/-- The line that a signature section has for a field. -/
def signatureLine (blank : String) (data : Record) (f : Field) : FieldLine :=
  match data.shown? f.key with
  | some text => { label := f.label, value := text }
  | none => { label := f.label, value := blank, isBlank := true }

/-- The line that a detail section has for a field, if it has one. -/
def detailLine? (data : Record) (f : Field) : Option FieldLine :=
  (data.shown? f.key).map fun text => { label := f.label, value := text }

theorem eq_of_filledLine [Machine] {occasion : Occasion} {line : FieldLine}
    (done : filledLine occasion data f = .ok line) :
    line = { label := f.label, value := (data.value f.key).displayText } := by
  obtain ⟨text, shown, rfl⟩ := map_eq_ok.mp done
  rw [Value.eq_of_display shown]

/-- A signature section has one line for each of its fields. -/
theorem eq_of_signatureLines [Machine] {blank : String} {lines : List FieldLine}
    (done : signatureLines blank fields data = .ok lines) :
    lines = fields.map (signatureLine blank data) := by
  apply eq_map_of_mapM_eq_ok _ done
  intro f line made
  cases present : (data.value f.key).isPresent with
  | true =>
      rw [if_pos present] at made
      rw [eq_of_filledLine made, signatureLine, Record.shown?_of_isPresent present]
  | false =>
      rw [present, if_neg (by decide)] at made
      rw [signatureLine, Record.shown?_of_not_isPresent present]
      exact (Except.ok.inj made).symm

/-- A detail section has lines for those of its fields that have a text. -/
theorem eq_of_detailLines [Machine] {lines : List FieldLine}
    (done : detailLines fields data = .ok lines) :
    lines = fields.filterMap (detailLine? data) := by
  rw [eq_map_of_mapM_eq_ok (fun f line => eq_of_filledLine) done]
  clear done
  induction fields with
  | nil => rfl
  | cons f rest ih =>
      cases present : (data.value f.key).isPresent with
      | true =>
          have line : detailLine? data f =
              some { label := f.label, value := (data.value f.key).displayText } := by
            rw [detailLine?, Record.shown?_of_isPresent present, Option.map_some]
          rw [List.filter_cons_of_pos (by exact present), List.map_cons, ih,
            List.filterMap_cons_some line]
      | false =>
          have line : detailLine? data f = none := by
            rw [detailLine?, Record.shown?_of_not_isPresent present, Option.map_none]
          rw [List.filter_cons_of_neg (by simp [present]), ih, List.filterMap_cons_none line]

/-- What the node of a section shows of a record, kind by kind. A title or content that
becomes empty is left out of detail and table sections, and stands for itself in text
sections; a signature section has a title of its own in its place. -/
def Renderer.Shows (r : Renderer) (data : Record) (s : TemplateSection) (node : Node) : Prop :=
  node.kind = r.kind ∧ node.sectionId = s.id ∧
  match r with
  | .header _ | .body _ | .footer _ =>
    ∃ text, Placeholder.Becomes s.content data text ∧ node.text = some text
  | .detail _ =>
    (∃ title, Placeholder.Becomes s.title data title ∧ node.title = nonEmpty? title) ∧
    (∃ text, Placeholder.Becomes s.content data text ∧ node.text = nonEmpty? text) ∧
    node.fieldLines = some (s.declared.filterMap (detailLine? data))
  | .separator _ => True
  | .table _ => ∃ title, Placeholder.Becomes s.title data title ∧ node.title = nonEmpty? title
  | .signature blank =>
    (∃ title, Placeholder.Becomes s.title data title ∧
      node.title = some ((nonEmpty? title).getD "Signature")) ∧
    node.fieldLines = some (s.declared.map (signatureLine blank data))

/-- A renderer with a result has a node that shows what the section has to show, or none
for a table without columns. -/
theorem Renderer.shows_of_render [Machine] {r : Renderer} {s : TemplateSection}
    {node? : Option Node}
    (done : (r.render s data).result = .ok node?) :
    (∃ node, node? = some node ∧ r.Shows data s node ∧ (r.kind = .table → s.columnList ≠ [])) ∨
    (node? = none ∧ r.kind = .table ∧ s.columnList = []) := by
  have yields := Renderer.yields_of_render done
  cases r with
  | header size | body size | footer size =>
      obtain ⟨text, content, rfl⟩ := yields
      have becomes := Placeholder.becomes_of_substituteOptional content
      exact .inl ⟨_, rfl, ⟨rfl, rfl, text, becomes, rfl⟩, by simp [Renderer.kind]⟩
  | detail size =>
      obtain ⟨lines, title, text, filled, headed, content, rfl⟩ := yields
      have becomesTitle := Placeholder.becomes_of_substituteOptional headed
      have becomesText := Placeholder.becomes_of_substituteOptional content
      have all := congrArg some (eq_of_detailLines filled)
      exact .inl ⟨_, rfl, ⟨rfl, rfl, ⟨title, becomesTitle, rfl⟩, ⟨text, becomesText, rfl⟩, all⟩,
        by simp [Renderer.kind]⟩
  | separator divider =>
      exact .inl ⟨_, yields, ⟨rfl, rfl, trivial⟩, by simp [Renderer.kind]⟩
  | signature blank =>
      obtain ⟨lines, title, filled, headed, rfl⟩ := yields
      have becomes := Placeholder.becomes_of_substituteOptional headed
      have all := congrArg some (eq_of_signatureLines filled)
      exact .inl ⟨_, rfl, ⟨rfl, rfl, ⟨title, becomes, rfl⟩, all⟩, by simp [Renderer.kind]⟩
  | table readsLegacyRows =>
      rcases yields with ⟨bare, rfl⟩ | ⟨columns, title, rows, headed, -, rfl⟩
      · exact .inr ⟨rfl, rfl, bare⟩
      · have becomes := Placeholder.becomes_of_substituteOptional headed
        exact .inl ⟨_, rfl, ⟨rfl, rfl, title, becomes, rfl⟩, fun _ => columns⟩

end Render

end Stencil
