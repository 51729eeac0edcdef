/-
# When a section can be rendered

The only thing that rendering can fail at is a value without a text. Each renderer
shows a list of values, which depends on the section and the record, and it fails
exactly when one of them has no text where it is shown. What is hidden, or of an unknown
kind, shows nothing and so never fails.
-/

import Stencil.Proofs.Placeholder.Substitution
import Stencil.Field.Discovery
import Stencil.Render.Document

namespace Stencil

namespace Render

variable {data : Record} {s : TemplateSection}

theorem hasResult_substituteOptional [Machine] {text? : Option String} :
    HasResult (Placeholder.substituteOptional text? data) ↔
      ∀ key ∈ Placeholder.keys (text?.getD ""), (data.value key).isPresent = true →
        (data.value key).hasText .token = true :=
  Placeholder.substitute_ok_iff

theorem hasResult_filledLine [Machine] {occasion : Occasion} {f : Field} :
    HasResult (filledLine occasion data f) ↔ (data.value f.key).hasText occasion = true := by
  simp [filledLine]

/-- The lines of a detail section can be made when the present values of its fields have
a text. -/
theorem hasResult_detailLines [Machine] {fields : List Field} :
    HasResult (detailLines fields data) ↔
      ∀ f ∈ fields, (data.value f.key).isPresent = true →
        (data.value f.key).hasText .detailLine = true := by
  simp only [detailLines, hasResult_mapM, hasResult_filledLine, List.mem_filter, and_imp]

/-- The lines of a signature section can be made when the present values of its fields
have a text. -/
theorem hasResult_signatureLines [Machine] {blank : String} {fields : List Field} :
    HasResult (signatureLines blank fields data) ↔
      ∀ f ∈ fields, (data.value f.key).isPresent = true →
        (data.value f.key).hasText .signatureLine = true := by
  rw [signatureLines, hasResult_mapM]
  apply forall₂_congr
  intro f _
  cases given : (data.value f.key).isPresent <;> simp [hasResult_filledLine]

/-- The values that the rows of a table show: those of its objects under the keys of the
columns. -/
def rowValues (source : Value) (columns : List Column) : List Value :=
  (source.items.filterMap Value.record?).flatMap fun record =>
    columns.map fun column => record.value column.key

theorem hasResult_cell [Machine] {row : Value} {column : Column} :
    HasResult (cell row column) ↔
      ∀ record, row.record? = some record → (record.value column.key).hasText .cell = true := by
  cases read : row.record? <;> simp [cell, read]

theorem hasResult_tableRows [Machine] {source : Value} {columns : List Column} :
    HasResult (tableRows source columns) ↔
      ∀ v ∈ rowValues source columns, v.hasText .cell = true := by
  simp only [tableRows, rowValues, hasResult_mapM, hasResult_cell, List.forall_mem_flatMap,
    List.forall_mem_map, List.mem_filterMap, forall_exists_index, and_imp]
  exact ⟨fun all record row mem read column inside => all row mem column inside record read,
    fun all row mem column inside record read => all record row mem read column inside⟩

/-- A showable record shows showable values in the rows of a table. -/
theorem isShowable_of_mem_rowValues {readsLegacyRows : Bool} {columns : List Column} {v : Value}
    (showable : data.IsShowable)
    (mem : v ∈ rowValues (rowSource readsLegacyRows s data).1 columns) : v.isShowable = true := by
  have source : (rowSource readsLegacyRows s data).1.isShowable = true := by
    unfold rowSource
    split
    · exact showable.value s.id
    · split
      · exact showable.value legacyRowsKey
      · rfl
  have rows : ∀ row ∈ (rowSource readsLegacyRows s data).1.items, row.isShowable = true := by
    intro row inside
    generalize (rowSource readsLegacyRows s data).1 = held at source inside
    cases held with
    | list items => exact Value.areShowable_iff.mp source row inside
    | _ => cases inside
  obtain ⟨record, held, cells⟩ := List.mem_flatMap.mp mem
  obtain ⟨row, inside, read⟩ := List.mem_filterMap.mp held
  obtain ⟨column, -, rfl⟩ := List.mem_map.mp cells
  exact (Record.isShowable_of_record? read (rows row inside)).value column.key

/-- The present ones of the values of some keys, on an occasion to show them. -/
def presentValues (data : Record) (occasion : Occasion) (keys : List String) :
    List (Occasion × Value) :=
  ((keys.map data.value).filter Value.isPresent).map fun v => (occasion, v)

/-- The values that a renderer shows in a visible section, each with the occasion. -/
def Renderer.shownValues (r : Renderer) (s : TemplateSection) (data : Record) :
    List (Occasion × Value) :=
  let content := presentValues data .token (Placeholder.keys (s.content.getD ""))
  let title := presentValues data .token (Placeholder.keys (s.title.getD ""))
  let declared := s.declared.map Field.key
  match r with
  | .header _ | .body _ | .footer _ => content
  | .detail _ => presentValues data .detailLine declared ++ title ++ content
  | .separator _ => []
  | .table readsLegacyRows =>
    if s.columnList.isEmpty then []
    else
      title ++ (rowValues (rowSource readsLegacyRows s data).1 s.columnList).map fun v => (.cell, v)
  | .signature _ => presentValues data .signatureLine declared ++ title

theorem forall_mem_presentValues {occasion : Occasion} {keys : List String}
    {P : Occasion × Value → Prop} :
    (∀ shown ∈ presentValues data occasion keys, P shown) ↔
      ∀ key ∈ keys, (data.value key).isPresent = true → P (occasion, data.value key) := by
  constructor
  · intro all key mem present
    exact all _ (List.mem_map_of_mem (List.mem_filter.mpr ⟨List.mem_map_of_mem mem, present⟩))
  · intro all shown mem
    obtain ⟨v, kept, rfl⟩ := List.mem_map.mp mem
    obtain ⟨held, present⟩ := List.mem_filter.mp kept
    obtain ⟨key, inside, rfl⟩ := List.mem_map.mp held
    exact all key inside present

/-- All that a renderer shows of a showable record is showable. -/
theorem Renderer.isShowable_of_mem_shownValues {r : Renderer} (showable : data.IsShowable)
    {shown : Occasion × Value} (mem : shown ∈ r.shownValues s data) :
    shown.2.isShowable = true := by
  have looked (occasion : Occasion) (keys : List String) :
      ∀ shown ∈ presentValues data occasion keys, shown.2.isShowable = true :=
    forall_mem_presentValues.mpr fun key _ _ => showable.value key
  cases r with
  | header size | body size | footer size => exact looked _ _ _ mem
  | separator divider => cases mem
  | detail size =>
      simp only [shownValues, List.mem_append, or_assoc] at mem
      rcases mem with field | title | content
      · exact looked _ _ _ field
      · exact looked _ _ _ title
      · exact looked _ _ _ content
  | signature blank =>
      simp only [shownValues, List.mem_append] at mem
      rcases mem with field | title
      · exact looked _ _ _ field
      · exact looked _ _ _ title
  | table readsLegacyRows =>
      by_cases columns : s.columnList.isEmpty = true
      · simp [shownValues, columns] at mem
      · simp only [shownValues, columns, Bool.false_eq_true, if_false, List.mem_append] at mem
        rcases mem with title | cells
        · exact looked _ _ _ title
        · obtain ⟨v, row, rfl⟩ := List.mem_map.mp cells
          exact isShowable_of_mem_rowValues showable row

/-- A renderer fails exactly when a value that it shows has no text. -/
theorem Renderer.hasResult_render [Machine] {r : Renderer} :
    HasResult (r.render s data).result ↔
      ∀ shown ∈ r.shownValues s data, shown.2.hasText shown.1 = true := by
  have substituted (text? : Option String) :
      HasResult (Placeholder.substituteOptional text? data) ↔
        ∀ shown ∈ presentValues data .token (Placeholder.keys (text?.getD "")),
          shown.2.hasText shown.1 = true := by
    rw [hasResult_substituteOptional, forall_mem_presentValues]
  cases r with
  | header size => simp [render, shownValues, substituted]
  | body size => simp [render, shownValues, substituted]
  | footer size => simp [render, shownValues, substituted]
  | separator divider => simp [render, shownValues]
  | detail size =>
      rw [shownValues, List.forall_mem_append, List.forall_mem_append, and_assoc,
        forall_mem_presentValues, List.forall_mem_map]
      refine Traced.hasResult_bind_iff hasResult_detailLines fun lines => ?_
      refine Traced.hasResult_bind_iff (substituted s.title) fun title => ?_
      simp [substituted]
  | signature blank =>
      rw [shownValues, List.forall_mem_append, forall_mem_presentValues, List.forall_mem_map]
      refine Traced.hasResult_bind_iff hasResult_signatureLines fun lines => ?_
      simp [substituted]
  | table readsLegacyRows =>
      by_cases columns : s.columnList.isEmpty = true
      · simp [render, shownValues, columns]
      · simp only [render, shownValues, columns, Bool.false_eq_true, if_false,
          List.forall_mem_append, List.forall_mem_map]
        rw [Traced.result_bind, Traced.result_notes]
        show HasResult (Traced.result _) ↔ _
        refine Traced.hasResult_bind_iff (substituted s.title) fun title => ?_
        simp [hasResult_tableRows]

namespace Registry

variable (registry : Registry)

/-- The values that a section shows, none if it is hidden or of an unknown kind. -/
def shownValues (s : TemplateSection) (data : Record) : List (Occasion × Value) :=
  if s.isVisible data then
    s.kind?.elim [] fun kind => (registry.renderer kind).shownValues s data
  else []

/-- All that a section shows of a showable record is showable. -/
theorem isShowable_of_mem_shownValues (showable : data.IsShowable) {shown : Occasion × Value}
    (mem : shown ∈ registry.shownValues s data) : shown.2.isShowable = true := by
  unfold shownValues at mem
  split at mem
  · cases known : s.kind? with
    | none => simp [known] at mem
    | some kind =>
        rw [known] at mem
        exact Renderer.isShowable_of_mem_shownValues showable mem
  · cases mem

/-- A section fails exactly when a value that it shows has no text. -/
theorem hasResult_renderSection [Machine] :
    HasResult (registry.renderSection s data).result ↔
      ∀ shown ∈ registry.shownValues s data, shown.2.hasText shown.1 = true := by
  by_cases visible : s.isVisible data = true
  · cases known : s.kind? with
    | none => simp [renderSection, shownValues, visible, known]
    | some kind => simp [renderSection, shownValues, visible, known, Renderer.hasResult_render]
  · simp [renderSection, shownValues, visible]

/-- No section of a showable record fails on the standard machine. -/
theorem hasResult_renderSection_of_isShowable (showable : data.IsShowable) :
    HasResult (registry.renderSection s data).result :=
  registry.hasResult_renderSection.mpr fun _ => registry.isShowable_of_mem_shownValues showable

/-- Sections fail exactly when a value that one of them shows has no text. -/
theorem hasResult_renderSections [Machine] {sections : List TemplateSection} :
    HasResult (registry.renderSections data sections).result ↔
      ∀ s ∈ sections, ∀ shown ∈ registry.shownValues s data,
        shown.2.hasText shown.1 = true := by
  induction sections with
  | nil => simp [renderSections]
  | cons s rest ih =>
      rw [List.forall_mem_cons, renderSections]
      refine Traced.hasResult_bind_iff registry.hasResult_renderSection fun node? => ?_
      rw [← ih, bind_pure_comp, Traced.result_map, hasResult_map]

/-- A template fails to be rendered exactly when a value that one of its sections shows
has no text. -/
theorem hasResult_render [Machine] {t : Template} :
    HasResult (registry.render t data).result ↔
      ∀ s ∈ t.sections, ∀ shown ∈ registry.shownValues s data,
        shown.2.hasText shown.1 = true := by
  rw [← hasResult_renderSections, render]
  apply Traced.hasResult_bind_of_forall
  intro nodes
  simp

end Registry

end Render

end Stencil
