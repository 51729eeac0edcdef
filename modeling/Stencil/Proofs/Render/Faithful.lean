/-
# Documents survive printing

The document of a node is made of texts, of truth values and of the numbers in its style, under
names that differ. The changes of a section bring binary numbers into a style and nothing else,
so where renderers start from binary sizes the summary of a document can be printed and read
without a loss.
-/

import Mathlib.Data.Option.Basic
import Stencil.Proofs.Json.Faithful
import Stencil.Proofs.Render.Finite

namespace Stencil

/-- Whether a number is a binary one. -/
def Number.isBinary : Number → Bool
  | .int _ => false
  | .float _ => true

namespace Render

theorem isFaithful_numberValue {number : Number} (binary : number.isBinary = true) :
    (numberValue number).IsFaithful := by
  cases number with
  | int i => cases binary
  | float x => exact .float x

theorem isFaithful_textsValue (texts : List String) : (textsValue texts).IsFaithful := by
  apply Value.isFaithful_list_map
  intro text _
  exact .text text

theorem FieldLine.isFaithful_toValue (line : FieldLine) : line.toValue.IsFaithful := by
  apply Value.IsFaithful.object (by simp)
  simp only [List.forall_mem_cons]
  exact ⟨.text _, .text _, .text _, .bool _, List.forall_mem_nil _⟩

namespace Style

/-- All numbers of a style are binary. -/
structure IsBinary (style : Style) : Prop where
  size : style.size.isBinary = true
  marginTop : ∀ margin ∈ style.marginTop, margin.isBinary = true
  marginBottom : ∀ margin ∈ style.marginBottom, margin.isBinary = true

variable {style defaults : Style}

theorem IsBinary.isFaithful_toValue (binary : style.IsBinary) : style.toValue.IsFaithful := by
  have margin {given : Option Number} (own : ∀ margin ∈ given, margin.isBinary = true) :
      ∀ v ∈ given.map numberValue, v.IsFaithful := by
    rw [Option.forall_mem_map]
    intro number mem
    exact isFaithful_numberValue (own number mem)
  apply Value.isFaithful_presentEntries (by simp)
  simp only [List.forall_mem_cons, Option.mem_some_iff, forall_eq']
  exact ⟨isFaithful_numberValue binary.size, .text _, .text _, margin binary.marginTop,
    margin binary.marginBottom, List.forall_mem_nil _⟩

theorem isBinary_marginOr {absent : Option Number}
    (binary : ∀ margin ∈ absent, margin.isBinary = true) (given : Option Binary64) :
    ∀ margin ∈ marginOr given absent, margin.isBinary = true := by
  unfold marginOr
  split
  · split
    · exact binary
    · rintro margin ⟨rfl⟩
      rfl
  · exact binary

/-- The changes of a section keep a style binary. -/
theorem IsBinary.merge (binary : defaults.IsBinary) (change : StyleOverride) :
    (defaults.merge change).IsBinary where
  size := by
    show (numberOr change.fontSize defaults.size).isBinary = true
    unfold numberOr
    split
    · split
      · exact binary.size
      · rfl
    · exact binary.size
  marginTop := isBinary_marginOr binary.marginTop change.marginTop
  marginBottom := isBinary_marginOr binary.marginBottom change.marginBottom

end Style

/-- The document of a node is faithful if the numbers of its style are binary. -/
theorem Node.isFaithful_toValue {node : Node} (binary : ∀ style ∈ node.style, style.IsBinary) :
    node.toValue.IsFaithful := by
  have text (given : Option String) : ∀ v ∈ given.map Value.text, v.IsFaithful := by
    rw [Option.forall_mem_map]
    intro s _
    exact .text s
  have signature : ∀ v ∈ (if node.hasSignatureLine then some (Value.bool true) else none),
      v.IsFaithful := by
    split
    · rintro v ⟨rfl⟩
      exact .bool true
    · rintro v ⟨⟩
  apply Value.isFaithful_presentEntries (by simp)
  simp only [List.forall_mem_cons, Option.mem_some_iff, forall_eq']
  refine ⟨.text _, .text _, text _, text _, text _, ?_, ?_, ?_, ?_, signature,
    List.forall_mem_nil _⟩
  all_goals rw [Option.forall_mem_map]
  · intro style mem
    exact (binary style mem).isFaithful_toValue
  · intro texts _
    exact isFaithful_textsValue texts
  · intro rows _
    apply Value.isFaithful_list_map
    intro texts _
    exact isFaithful_textsValue texts
  · intro lines _
    apply Value.isFaithful_list_map
    intro line _
    exact line.isFaithful_toValue

/-- A renderer that starts from a binary style has binary styles for all sections. -/
theorem Renderer.isBinary_styleOf {r : Renderer} {s : TemplateSection}
    (starts : ∀ style ∈ r.defaultStyle?, style.IsBinary) : ∀ style ∈ r.styleOf s, style.IsBinary := by
  intro style held
  obtain ⟨start, mem, rfl⟩ := Option.map_eq_some_iff.mp held
  unfold Style.mergeOptional
  cases s.style with
  | none => exact starts start mem
  | some change => exact (starts start mem).merge change

end Render

/-- The summary of a document is faithful if the numbers in the styles of its nodes are binary. -/
theorem Document.isFaithful_summary {d : Document}
    (binary : ∀ style ∈ d.nodes.filterMap Render.Node.style, style.IsBinary) :
    d.summary.IsFaithful := by
  apply Value.IsFaithful.object (by simp [summaryEntries])
  simp only [summaryEntries, List.forall_mem_cons]
  refine ⟨?_, ?_, ?_, ?_, List.forall_mem_nil _⟩
  · apply Value.IsFaithful.object (by simp)
    simp only [List.forall_mem_cons]
    refine ⟨.bool _, Value.isFaithful_list_map ?_, List.forall_mem_nil _⟩
    intro key _
    exact .text key
  · apply Value.isFaithful_list_map
    intro violation _
    apply Value.IsFaithful.object (by simp)
    simp only [List.forall_mem_cons]
    exact ⟨.text _, .text _, .text _, List.forall_mem_nil _⟩
  · apply Value.isFaithful_list_map
    intro conflict _
    apply Value.IsFaithful.object (by simp)
    simp only [List.forall_mem_cons]
    exact ⟨.text _, .text _, .text _, .text _, List.forall_mem_nil _⟩
  · apply Value.isFaithful_list_map
    intro node mem
    apply Render.Node.isFaithful_toValue
    intro style held
    exact binary style (List.mem_filterMap.mpr ⟨node, mem, held⟩)

end Stencil
