/-
# What a renderer yields

A renderer that has a result resolves the texts of the section, makes its lines or rows, and
puts them into a node. The node is known exactly from these parts, and only a table section
without columns yields none. Whatever holds of nodes is read off this list.
-/

import Stencil.Proofs.Log.Trace
import Stencil.Render.Section

namespace Stencil.Render

/-- What a renderer yields for a section, kind by kind. -/
def Renderer.Yields [Machine] (r : Renderer) (data : Record) (s : TemplateSection)
    (node? : Option Node) :
    Prop :=
  match r with
  | .header _ | .body _ | .footer _ =>
    ∃ text, Placeholder.substituteOptional s.content data = .ok text ∧
      node? = some
        { kind := r.kind, sectionId := s.id, text := some text, style := r.styleOf s }
  | .detail _ =>
    ∃ lines title text, detailLines s.declared data = .ok lines ∧
      Placeholder.substituteOptional s.title data = .ok title ∧
      Placeholder.substituteOptional s.content data = .ok text ∧
      node? = some
        { kind := .detail, sectionId := s.id, title := nonEmpty? title, text := nonEmpty? text,
          style := r.styleOf s, fieldLines := some lines }
  | .separator divider =>
    node? = some { kind := .separator, sectionId := s.id, divider := some divider }
  | .table readsLegacyRows =>
    (s.columnList = [] ∧ node? = none) ∨
    (s.columnList ≠ [] ∧ ∃ title rows,
      Placeholder.substituteOptional s.title data = .ok title ∧
      tableRows (rowSource readsLegacyRows s data).1 s.columnList = .ok rows ∧
      node? = some
        { kind := .table, sectionId := s.id, title := nonEmpty? title,
          headerRow := some (s.columnList.map Column.label), rows := some rows })
  | .signature blank =>
    ∃ lines title, signatureLines blank s.declared data = .ok lines ∧
      Placeholder.substituteOptional s.title data = .ok title ∧
      node? = some
        { kind := .signature, sectionId := s.id, title := some ((nonEmpty? title).getD "Signature"),
          fieldLines := some lines, hasSignatureLine := true }

variable {r : Renderer} {s : TemplateSection} {data : Record} {node? : Option Node}

/-- A renderer that has a result yields it. -/
theorem Renderer.yields_of_render [Machine] (done : (r.render s data).result = .ok node?) :
    r.Yields data s node? := by
  cases r with
  | header size | body size | footer size =>
      obtain ⟨text, content, last⟩ := Traced.result_bind_eq_ok.mp done
      cases last
      exact ⟨text, content, rfl⟩
  | detail size =>
      obtain ⟨lines, filled, rest⟩ := Traced.result_bind_eq_ok.mp done
      obtain ⟨title, headed, rest⟩ := Traced.result_bind_eq_ok.mp rest
      obtain ⟨text, content, last⟩ := Traced.result_bind_eq_ok.mp rest
      cases last
      exact ⟨lines, title, text, filled, headed, content, rfl⟩
  | separator divider =>
      cases done
      rfl
  | table readsLegacyRows =>
      by_cases columns : s.columnList.isEmpty = true
      · rw [render, if_pos columns] at done
        cases done
        exact .inl ⟨List.isEmpty_iff.mp columns, rfl⟩
      · rw [render, if_neg columns] at done
        obtain ⟨_, -, rest⟩ := Traced.result_bind_eq_ok.mp done
        obtain ⟨title, headed, rest⟩ := Traced.result_bind_eq_ok.mp rest
        obtain ⟨rows, filled, last⟩ := Traced.result_bind_eq_ok.mp rest
        cases last
        have columned : s.columnList ≠ [] := fun bare => columns (List.isEmpty_iff.mpr bare)
        exact .inr ⟨columned, title, rows, headed, filled, rfl⟩
  | signature blank =>
      obtain ⟨lines, filled, rest⟩ := Traced.result_bind_eq_ok.mp done
      obtain ⟨title, headed, last⟩ := Traced.result_bind_eq_ok.mp rest
      cases last
      exact ⟨lines, title, filled, headed, rfl⟩

end Stencil.Render
