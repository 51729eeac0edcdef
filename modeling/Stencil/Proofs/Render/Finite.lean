/-
# The numbers of a document

All else in a node is text, so the numbers of a document are those of its styles. A section
has a style if it is of a kind for running text; whatever it does not change there it has from
the renderer. So a document is free of numbers that are not finite as long as the renderers
are and no section that is shown sets one.
-/

import Stencil.Engine.Document
import Stencil.Proofs.Render.Order
import Stencil.Proofs.Template.FinitePart
import Stencil.Proofs.Value.Numbers

namespace Stencil

theorem Binary64.isFinite_of_isZero {x : Binary64} (zero : x.isZero = true) : x.isFinite = true := by
  cases x with
  | finite negative rank => rfl
  | _ => cases zero

/-- A number that is an integer or finite. -/
def Number.IsFinite : Number → Prop
  | .int _ => True
  | .float x => x.isFinite = true

namespace Render

theorem isFinite_numberValue {number : Number} : (numberValue number).IsFinite ↔ number.IsFinite := by
  cases number with
  | int i => exact iff_of_true (Value.isFinite_int i) trivial
  | float x => exact Value.isFinite_float

theorem isFinite_textsValue (texts : List String) : (textsValue texts).IsFinite :=
  Value.isFinite_list.mpr (List.forall_mem_map.mpr fun text _ => Value.isFinite_text text)

theorem FieldLine.isFinite_toValue (line : FieldLine) : line.toValue.IsFinite := by
  simp [toValue, Value.isFinite_object]

namespace Style

/-- The size and the margins of a style are finite. -/
structure IsFinite (style : Style) : Prop where
  size : style.size.IsFinite
  marginTop : ∀ margin ∈ style.marginTop, margin.IsFinite
  marginBottom : ∀ margin ∈ style.marginBottom, margin.IsFinite

theorem isFinite_toValue {style : Style} : style.toValue.IsFinite ↔ style.IsFinite := by
  have margin (given : Option Number) :
      (∀ v ∈ given.map numberValue, v.IsFinite) ↔ ∀ number ∈ given, number.IsFinite := by
    cases given <;> simp [isFinite_numberValue]
  simp only [toValue, Value.isFinite_object_presentEntries, List.forall_mem_cons, margin,
    Option.mem_some_iff, forall_eq', isFinite_numberValue]
  constructor
  · rintro ⟨size, -, -, top, bottom, -⟩
    exact ⟨size, top, bottom⟩
  · rintro ⟨size, top, bottom⟩
    exact ⟨size, Value.isFinite_text _, Value.isFinite_text _, top, bottom, List.forall_mem_nil _⟩

variable {defaults : Style}

theorem isFinite_numberOr {absent : Number} (finite : absent.IsFinite) (given : Option Binary64) :
    (numberOr given absent).IsFinite ↔ ∀ x ∈ given.toList, x.isFinite = true := by
  cases given with
  | none => simpa [numberOr] using finite
  | some x =>
      rw [numberOr, Option.toList_some, List.forall_mem_singleton]
      split
      · rename_i zero
        exact iff_of_true finite (Binary64.isFinite_of_isZero zero)
      · rfl

theorem isFinite_marginOr {absent : Option Number} (finite : ∀ number ∈ absent, number.IsFinite)
    (given : Option Binary64) :
    (∀ number ∈ marginOr given absent, number.IsFinite) ↔
      ∀ x ∈ given.toList, x.isFinite = true := by
  cases given with
  | none => simpa [marginOr] using finite
  | some x =>
      rw [marginOr, Option.toList_some, List.forall_mem_singleton]
      split
      · rename_i zero
        exact iff_of_true finite (Binary64.isFinite_of_isZero zero)
      · simp only [Option.mem_some_iff, forall_eq']
        rfl

/-- A finite style stays finite exactly under changes to finite numbers. -/
theorem isFinite_merge (finite : defaults.IsFinite) {change : StyleOverride} :
    (defaults.merge change).IsFinite ↔ ∀ x ∈ change.numbers, x.isFinite = true := by
  have size := isFinite_numberOr finite.size change.fontSize
  have top := isFinite_marginOr finite.marginTop change.marginTop
  have bottom := isFinite_marginOr finite.marginBottom change.marginBottom
  rw [StyleOverride.numbers, List.forall_mem_append, List.forall_mem_append, ← size, ← top, ← bottom]
  constructor
  · rintro ⟨own, above, below⟩
    exact ⟨⟨own, above⟩, below⟩
  · rintro ⟨⟨own, above⟩, below⟩
    exact ⟨own, above, below⟩

end Style

/-- A node is finite if its style is. -/
theorem Node.isFinite_toValue {node : Node} :
    node.toValue.IsFinite ↔ ∀ style ∈ node.style, style.IsFinite := by
  have texts (given : Option String) : ∀ v ∈ given.map Value.text, v.IsFinite := by
    cases given <;> simp
  have header : ∀ v ∈ node.headerRow.map textsValue, v.IsFinite := by
    cases node.headerRow <;> simp [isFinite_textsValue]
  have rows : ∀ v ∈ node.rows.map (fun rows => Value.list (rows.map textsValue)), v.IsFinite := by
    cases node.rows <;> simp [isFinite_textsValue, Value.isFinite_list]
  have lines : ∀ v ∈ node.fieldLines.map (fun lines => Value.list (lines.map FieldLine.toValue)),
      v.IsFinite := by
    cases node.fieldLines <;> simp [FieldLine.isFinite_toValue, Value.isFinite_list]
  have signature : ∀ v ∈ (if node.hasSignatureLine then some (Value.bool true) else none),
      v.IsFinite := by
    cases node.hasSignatureLine <;> simp
  have style : (∀ v ∈ node.style.map Style.toValue, v.IsFinite) ↔
      ∀ style ∈ node.style, style.IsFinite := by
    cases node.style <;> simp [Style.isFinite_toValue]
  rw [toValue, Value.isFinite_object_presentEntries, ← style]
  simp only [List.forall_mem_cons]
  constructor
  · rintro ⟨-, -, -, -, -, own, -⟩
    exact own
  · intro own
    exact ⟨by simp, by simp, texts _, texts _, texts _, own, header, rows, lines, signature, by simp⟩

end Render

/-- Whether a kind of section is for running text, so that its nodes have a style. -/
def SectionKind.isStyled : SectionKind → Bool
  | .header | .body | .footer | .detail => true
  | _ => false

/-- The numbers that a section sets in its style. -/
def TemplateSection.styleNumbers (s : TemplateSection) : List Binary64 :=
  s.style.toList.flatMap StyleOverride.numbers

namespace Render

variable {data : Record} {s : TemplateSection}

namespace Renderer

variable {r : Renderer}

/-- The style that a renderer starts from is finite, if it starts from one. -/
def StartsFinite (r : Renderer) : Prop := ∀ style ∈ r.defaultStyle?, style.IsFinite

/-- A node has the style that its renderer has for the section. -/
theorem style_of_render [Machine] {node? : Option Node}
    (done : (r.render s data).result = .ok node?) :
    node?.bind Node.style = r.styleOf s := by
  have yields := Renderer.yields_of_render done
  cases r with
  | header size | body size | footer size =>
      obtain ⟨text, -, rfl⟩ := yields
      rfl
  | detail size =>
      obtain ⟨lines, title, text, -, -, -, rfl⟩ := yields
      rfl
  | separator divider =>
      obtain rfl := yields
      rfl
  | signature blank =>
      obtain ⟨lines, title, -, -, rfl⟩ := yields
      rfl
  | table readsLegacyRows =>
      rcases yields with ⟨-, rfl⟩ | ⟨-, title, rows, -, -, rfl⟩
      · rfl
      · rfl

theorem isSome_defaultStyle? (r : Renderer) : r.defaultStyle?.isSome = r.kind.isStyled := by
  cases r <;> rfl

/-- The style that a renderer has for a section is finite unless it is for running text and the
section sets a number that is not. -/
theorem isFinite_styleOf (finite : r.StartsFinite) :
    (∀ style ∈ r.styleOf s, style.IsFinite) ↔
      (r.kind.isStyled = true → ∀ x ∈ s.styleNumbers, x.isFinite = true) := by
  rw [← isSome_defaultStyle?, styleOf, TemplateSection.styleNumbers]
  unfold StartsFinite at finite
  cases start : r.defaultStyle? with
  | none => simp
  | some style =>
      have own : style.IsFinite := finite style start
      cases given : s.style with
      | none => simpa [Style.mergeOptional] using own
      | some change => simp [Style.mergeOptional, Style.isFinite_merge own]

end Renderer

namespace Registry

variable {registry : Registry} {sections : List TemplateSection}

/-- The style that the node of a section has, if the section is shown. -/
def style? (registry : Registry) (data : Record) (s : TemplateSection) : Option Style :=
  if s.isVisible data then s.kind?.bind fun kind => (registry.renderer kind).styleOf s else none

theorem style_of_renderSection [Machine] {node? : Option Node}
    (done : (registry.renderSection s data).result = .ok node?) :
    node?.bind Node.style = registry.style? data s := by
  by_cases visible : s.isVisible data = true
  · cases known : s.kind? with
    | none =>
        rw [renderSection, if_pos visible, known] at done
        cases done
        rw [style?, if_pos visible, known]
        rfl
    | some kind =>
        rw [renderSection, if_pos visible, known] at done
        rw [style?, if_pos visible, known]
        exact Renderer.style_of_render done
  · rw [renderSection, if_neg visible] at done
    cases done
    rw [style?, if_neg visible]
    rfl

/-- The styles of the nodes are those of the sections that are shown. -/
theorem styles_of_renderSections [Machine] {nodes : List Node}
    (done : (registry.renderSections data sections).result = .ok nodes) :
    nodes.filterMap Node.style = sections.filterMap (registry.style? data) := by
  obtain ⟨rfl, each⟩ := eq_filterMap_of_renderSections done
  rw [List.filterMap_filterMap]
  apply List.filterMap_congr
  intro s mem
  exact style_of_renderSection (each s mem)

/-- The style of a section is finite unless the section is shown, is of a kind for running text
and sets a number that is not finite. -/
theorem isFinite_style? (finite : ∀ kind, (registry.renderer kind).StartsFinite) :
    (∀ style ∈ registry.style? data s, style.IsFinite) ↔
      (s.IsShownBy data → ∀ kind ∈ s.kind?, kind.isStyled = true →
        ∀ x ∈ s.styleNumbers, x.isFinite = true) := by
  rw [← TemplateSection.isVisible_iff]
  unfold style?
  by_cases visible : s.isVisible data = true
  · cases known : s.kind? with
    | none => simp
    | some kind =>
        have own := Renderer.isFinite_styleOf (s := s) (finite kind)
        rw [registry.kind_renderer] at own
        simp only [visible, if_true, Option.bind_some, own, true_implies, Option.mem_some_iff,
          forall_eq']
  · simp [visible]

end Registry

end Render

/-- The numbers of a summary are those in the styles of the nodes. -/
theorem Document.isFinite_summary {d : Document} :
    d.summary.IsFinite ↔ ∀ style ∈ d.nodes.filterMap Render.Node.style, style.IsFinite := by
  have missing : (missingValue d.missing).IsFinite := by
    simp [missingValue, Value.isFinite_object, Value.isFinite_list]
  have violations : (Value.list (d.violations.map Violation.toValue)).IsFinite := by
    simp [Violation.toValue, Value.isFinite_object, Value.isFinite_list]
  have conflicts : (Value.list (d.conflicts.map Conflict.toValue)).IsFinite := by
    simp [Conflict.toValue, Value.isFinite_object, Value.isFinite_list]
  have nodes : (Value.list (d.nodes.map Render.Node.toValue)).IsFinite ↔
      ∀ style ∈ d.nodes.filterMap Render.Node.style, style.IsFinite := by
    simp only [Value.isFinite_list, List.forall_mem_map, Render.Node.isFinite_toValue,
      List.mem_filterMap, forall_exists_index, and_imp]
    exact ⟨fun each style node mem held => each node mem style held,
      fun each node mem style held => each style node mem held⟩
  rw [summary, summaryEntries, Value.isFinite_object, ← nodes]
  simp only [List.forall_mem_cons]
  constructor
  · rintro ⟨-, -, -, finite, -⟩
    exact finite
  · intro finite
    exact ⟨missing, violations, conflicts, finite, List.forall_mem_nil _⟩

end Stencil
