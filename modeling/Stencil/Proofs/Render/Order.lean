/-
# Which sections become nodes

A section becomes a node if its condition shows it, its kind is known, and it is not a
table without columns; all others become nothing. Each section is rendered on its own, so
the nodes of a list of sections are those of its members, one after the other in the order
of the sections.
-/

import Mathlib.Data.List.Forall2
import Stencil.Proofs.Render.Showable
import Stencil.Proofs.Render.Shown

namespace Stencil

/-- The values that do not hold. All lists and objects hold, even if they are empty. -/
inductive Value.IsFalsy : Value → Prop
  | null : IsFalsy .null
  | no : IsFalsy (.bool false)
  | zero : IsFalsy (.int 0)
  | zeroFloat (negative : Bool) (rank : Fin Binary64.finiteRanks) (h : rank.val = 0) :
      IsFalsy (.float (.finite negative rank))
  | undefined : IsFalsy (.float .nan)
  | empty : IsFalsy (.text "")

theorem Value.isTruthy_eq_false_iff {v : Value} : v.isTruthy = false ↔ v.IsFalsy := by
  constructor
  · intro h
    cases v with
    | null => exact .null
    | bool b =>
        obtain rfl : b = false := h
        exact .no
    | int i =>
        obtain rfl : i = 0 := by simpa [isTruthy] using h
        exact .zero
    | float x =>
        cases x with
        | nan => exact .undefined
        | infinite negative => cases h
        | finite negative rank =>
            exact .zeroFloat negative rank (by simpa [isTruthy, Binary64.isZero] using h)
    | text s =>
        obtain rfl : s = "" := by simpa [isTruthy] using h
        exact .empty
    | list items => cases h
    | object entries => cases h
  · rintro (_ | _ | _ | ⟨negative, rank, zero⟩ | _ | _) <;> try rfl
    simp [isTruthy, Binary64.isZero, zero]

namespace TemplateSection

variable {s : TemplateSection} {data : Record}

/-- The condition of a section shows it: a key to show it by holds and a key to hide it by
does not. An empty key sets no condition. -/
structure IsShownBy (s : TemplateSection) (data : Record) : Prop where
  showIf : ∀ c key, s.condition = some c → c.showIf = some key → key ≠ "" →
    ¬ (data.value key).IsFalsy
  hideIf : ∀ c key, s.condition = some c → c.hideIf = some key → key ≠ "" →
    (data.value key).IsFalsy

theorem all_bind_nonEmpty? {key? : Option String} {p : String → Bool} :
    (key?.bind Render.nonEmpty?).all p = true ↔
      ∀ key, key? = some key → key ≠ "" → p key = true := by
  cases key? with
  | none => simp
  | some key => by_cases empty : key = "" <;> simp [Render.nonEmpty?, empty]

theorem isVisible_iff : s.isVisible data = true ↔ s.IsShownBy data := by
  cases given : s.condition with
  | none =>
      simp only [isVisible, given, true_iff]
      exact ⟨by simp [given], by simp [given]⟩
  | some c =>
      simp only [isVisible, given, Bool.and_eq_true, all_bind_nonEmpty?]
      constructor
      · rintro ⟨shows, hides⟩
        refine ⟨?_, ?_⟩
        · rintro _ key same set nonempty falsy
          obtain rfl := Option.some.inj (given.symm.trans same)
          have holds := shows key set nonempty
          rw [Value.isTruthy_eq_false_iff.mpr falsy] at holds
          cases holds
        · rintro _ key same set nonempty
          obtain rfl := Option.some.inj (given.symm.trans same)
          exact Value.isTruthy_eq_false_iff.mp (by simpa using hides key set nonempty)
      · rintro ⟨shows, hides⟩
        refine ⟨fun key set nonempty => ?_, fun key set nonempty => ?_⟩
        · have apart := shows c key given set nonempty
          rwa [← Value.isTruthy_eq_false_iff, Bool.not_eq_false] at apart
        · simpa using Value.isTruthy_eq_false_iff.mpr (hides c key given set nonempty)

/-- Whether a record makes a section become a node. -/
def isRendered (data : Record) (s : TemplateSection) : Bool :=
  s.isVisible data && s.kind?.any fun kind => kind != .table || !s.columnList.isEmpty

theorem isRendered_iff :
    s.isRendered data = true ↔
      s.IsShownBy data ∧ (∃ kind, s.kind? = some kind) ∧
        (s.kind? = some .table → s.columnList ≠ []) := by
  rw [isRendered, Bool.and_eq_true, isVisible_iff]
  cases known : s.kind? with
  | none => simp
  | some kind => cases kind <;> simp

end TemplateSection

namespace Render.Registry

variable {registry : Registry} {data : Record} {s : TemplateSection}
  {sections : List TemplateSection}

/-- What the node of a section of a known kind shows. -/
def Shows (registry : Registry) (data : Record) (s : TemplateSection) (node : Node) : Prop :=
  ∃ kind, s.kind? = some kind ∧ (registry.renderer kind).Shows data s node

/-- A section that is rendered becomes a node that shows it, and any other one nothing. -/
theorem shows_of_renderSection [Machine] {node? : Option Node}
    (done : (registry.renderSection s data).result = .ok node?) :
    (∃ node, node? = some node ∧ s.isRendered data = true ∧ registry.Shows data s node) ∨
      (node? = none ∧ s.isRendered data = false) := by
  by_cases visible : s.isVisible data = true
  · cases known : s.kind? with
    | none =>
        rw [renderSection, if_pos visible, known] at done
        cases done
        exact .inr ⟨rfl, by simp [TemplateSection.isRendered, known]⟩
    | some kind =>
        rw [renderSection, if_pos visible, known] at done
        have same : (registry.renderer kind).kind = kind := registry.kind_renderer kind
        rcases Renderer.shows_of_render done with
          ⟨node, rfl, shows, columns⟩ | ⟨rfl, isTable, columns⟩
        · rw [same] at columns
          refine .inl ⟨node, rfl, ?_, kind, known, shows⟩
          simpa [TemplateSection.isRendered, visible, known, or_iff_not_imp_left] using columns
        · rw [same] at isTable
          exact .inr ⟨rfl, by simp [TemplateSection.isRendered, known, isTable, columns]⟩
  · rw [renderSection, if_neg visible] at done
    cases done
    exact .inr ⟨rfl, by simp [TemplateSection.isRendered, visible]⟩

/-- The nodes of sections are, one for one and in order, those of the sections that are
rendered. -/
theorem shows_of_renderSections [Machine] {nodes : List Node}
    (done : (registry.renderSections data sections).result = .ok nodes) :
    List.Forall₂ (registry.Shows data) (sections.filter (·.isRendered data)) nodes := by
  induction sections generalizing nodes with
  | nil =>
      cases done
      exact .nil
  | cons s rest ih =>
      obtain ⟨node?, first, more⟩ := Traced.result_bind_eq_ok.mp done
      obtain ⟨others, later, last⟩ := Traced.result_bind_eq_ok.mp more
      cases last
      rcases shows_of_renderSection first with ⟨node, rfl, rendered, shows⟩ | ⟨rfl, hidden⟩
      · rw [List.filter_cons_of_pos rendered]
        exact .cons shows (ih later)
      · rw [List.filter_cons_of_neg (by simp [hidden])]
        exact ih later

/-- The node that a section becomes, none if it becomes nothing or cannot be rendered. -/
def node? [Machine] (registry : Registry) (data : Record) (s : TemplateSection) : Option Node :=
  (registry.renderSection s data).result.toOption.join

theorem renderSection_eq_node? [Machine] (has : HasResult (registry.renderSection s data).result) :
    (registry.renderSection s data).result = .ok (registry.node? data s) := by
  obtain ⟨node?, done⟩ := has
  simp [Registry.node?, done, Except.toOption]

/-- The nodes of sections are those of each section, in the order of the sections. -/
theorem renderSections_eq_filterMap [Machine]
    (has : ∀ s ∈ sections, HasResult (registry.renderSection s data).result) :
    (registry.renderSections data sections).result =
      .ok (sections.filterMap (registry.node? data)) := by
  induction sections with
  | nil => rfl
  | cons s rest ih =>
      have first := renderSection_eq_node? (has s (by simp))
      have later := ih fun other mem => has other (by simp [mem])
      rw [renderSections, Traced.result_bind, first, Except.bind, Traced.result_bind, later]
      cases own : registry.node? data s <;> simp [Except.bind, own]

/-- If sections were rendered, so was each of them, and the nodes are those of each. -/
theorem eq_filterMap_of_renderSections [Machine] {nodes : List Node}
    (done : (registry.renderSections data sections).result = .ok nodes) :
    nodes = sections.filterMap (registry.node? data) ∧
      ∀ s ∈ sections, (registry.renderSection s data).result = .ok (registry.node? data s) := by
  have showable := registry.hasResult_renderSections.mp ⟨nodes, done⟩
  have has : ∀ s ∈ sections, HasResult (registry.renderSection s data).result :=
    fun s mem => registry.hasResult_renderSection.mpr (showable s mem)
  rw [renderSections_eq_filterMap has] at done
  exact ⟨(Except.ok.inj done).symm, fun s mem => renderSection_eq_node? (has s mem)⟩

theorem result_render [Machine] (registry : Registry) (t : Template) (data : Record) :
    (registry.render t data).result = (registry.renderSections data t.sections).result := by
  rw [render, Traced.result_bind]
  cases (registry.renderSections data t.sections).result <;> simp [Except.bind, Except.map]

/-- What a section becomes in a showable record: a node with its identifier and kind if it
is rendered, and nothing otherwise. -/
theorem node?_cases (registry : Registry) (showable : data.IsShowable) (s : TemplateSection) :
    (∃ node, registry.node? data s = some node ∧ s.isRendered data = true ∧
        node.sectionId = s.id ∧ s.kind? = some node.kind) ∨
      (registry.node? data s = none ∧ s.isRendered data = false) := by
  have done : (registry.renderSection s data).result = .ok (registry.node? data s) :=
    renderSection_eq_node? (registry.hasResult_renderSection_of_isShowable showable)
  rcases shows_of_renderSection done with ⟨node, found, rendered, kind, known, shows⟩ | nothing
  · refine .inl ⟨node, found, rendered, shows.2.1, ?_⟩
    rw [shows.1, registry.kind_renderer, known]
  · exact .inr nothing

/-- Rendering keeps the order and neither loses nor doubles a section. Whatever the renderers
and the showable record, each section on its own becomes at most one node, which carries its
identifier and kind: one if its condition shows it, its kind is known and it is not a table
without columns. The nodes of any template are those of its sections in their order, so the
nodes of a longer list of sections are those of its parts, and sections in another order give
the same nodes in another order. -/
theorem render_eq_filterMap (registry : Registry) {data : Record} (showable : data.IsShowable) :
    ∃ nodeOf : TemplateSection → Option Node,
      (∀ s, (nodeOf s).isSome = true ↔
        s.IsShownBy data ∧ (∃ kind, s.kind? = some kind) ∧
          (s.kind? = some .table → s.columnList ≠ [])) ∧
      (∀ s node, nodeOf s = some node → node.sectionId = s.id ∧ s.kind? = some node.kind) ∧
      (∀ t : Template, (registry.render t data).result = .ok (t.sections.filterMap nodeOf)) ∧
      ∀ (t : Template) (xs ys : List TemplateSection), ∃ first second,
        (registry.render { t with sections := xs } data).result = .ok first ∧
        (registry.render { t with sections := ys } data).result = .ok second ∧
        (registry.render { t with sections := xs ++ ys } data).result = .ok (first ++ second) ∧
        (xs.Perm ys → first.Perm second) := by
  have rendered (t : Template) :
      (registry.render t data).result = .ok (t.sections.filterMap (registry.node? data)) := by
    rw [result_render]
    exact renderSections_eq_filterMap fun s _ =>
      registry.hasResult_renderSection_of_isShowable showable
  refine ⟨registry.node? data, fun s => ?_, fun s node found => ?_, rendered, fun t xs ys => ?_⟩
  · rw [← TemplateSection.isRendered_iff]
    rcases registry.node?_cases showable s with ⟨node, found, shown, -⟩ | ⟨noNode, hidden⟩
    · simp [found, shown]
    · simp [noNode, hidden]
  · rcases registry.node?_cases showable s with ⟨other, same, -, carries⟩ | ⟨noNode, -⟩
    · obtain rfl := Option.some.inj (found.symm.trans same)
      exact carries
    · rw [noNode] at found
      cases found
  · refine ⟨_, _, rendered _, rendered _, ?_, List.Perm.filterMap _⟩
    rw [rendered, List.filterMap_append]

/-- Two sections share an identifier, an empty list shows a section, a negative zero does not
hide one, and an unknown kind and a table without columns become nothing. -/
theorem render_eq_filterMap_letter :
    let data : Record :=
      ⟨[("tags", .list []), ("final", .float (Binary64.ofRank true 0)), ("name", .text "Ann")]⟩
    let t : Template :=
      { id := "letter", name := "Letter",
        sections :=
          [{ id := "a", kindName := "signature", condition := some { showIf := some "tags" } },
           { id := "b", kindName := "qr-code" }, { id := "c", kindName := "table" },
           { id := "a", kindName := "body", content := some "Dear \x7b\x7bname\x7d\x7d",
             condition := some { showIf := some "", hideIf := some "final" } },
           { id := "d", kindName := "separator", condition := some { showIf := some "absent" } }] }
    data.IsShowable ∧
      ∃ nodes, (standard.render t data).result = .ok nodes ∧
        nodes.map (fun node => (node.sectionId, node.kind)) =
          [("a", .signature), ("a", .body)] := by
  intro data t
  have showable : data.IsShowable := by
    simp [Record.IsShowable, data, Value.isShowable, Value.areShowable]
  obtain ⟨nodeOf, -, -, rendered, -⟩ := render_eq_filterMap standard showable
  have carried : (standard.render t data).result.toOption.map
      (fun nodes => nodes.map fun node => (node.sectionId, node.kind)) =
        some [("a", .signature), ("a", .body)] := by decide +kernel
  rw [rendered t] at carried
  exact ⟨showable, _, rendered t, Option.some.inj carried⟩

end Render.Registry

end Stencil
