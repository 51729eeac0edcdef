/-
# The style that a section asks for

A section may set five attributes of its style. The hints of its node are read attribute by
attribute, and each of them depends on this attribute alone: on what the section sets it to, and
on the style that the settings give to the kind of section. Only a change to zero or to the empty
text is passed over as if the section had not made it.
-/

import Stencil.Proofs.Engine.Workshop
import Stencil.Proofs.Render.Finite
import Stencil.Proofs.Schema.Attribute

namespace Stencil

/-- A number that is zero, or the empty text. -/
def Value.isVoid : Value → Bool
  | .float x => x.isZero
  | .text s => s == ""
  | _ => false

/-- The attributes of a style that a section may set. -/
inductive StyleAttribute
  | fontSize | fontWeight | textAlign | marginTop | marginBottom
  deriving DecidableEq, Repr

namespace StyleAttribute

/-- The name of an attribute in documents. -/
def name : StyleAttribute → String
  | .fontSize => "fontSize"
  | .fontWeight => "fontWeight"
  | .textAlign => "textAlign"
  | .marginTop => "marginTop"
  | .marginBottom => "marginBottom"

/-- What a section sets an attribute to. -/
def given? (a : StyleAttribute) (s : TemplateSection) : Option Value :=
  s.style.bind fun change =>
    match a with
    | .fontSize => change.fontSize.map .float
    | .fontWeight => change.fontWeight.map .text
    | .textAlign => change.textAlign.map .text
    | .marginTop => change.marginTop.map .float
    | .marginBottom => change.marginBottom.map .float

/-- What an attribute is under settings for a kind of section unless a section sets it. Nothing
has a margin of its own. -/
def standard? (a : StyleAttribute) (settings : Settings) (kind : SectionKind) : Option Value :=
  match a, kind with
  | .fontSize, .header => some (.float settings.headerSize)
  | .fontSize, .body => some (.float settings.bodySize)
  | .fontSize, .footer => some (.float settings.footerSize)
  | .fontSize, .detail => some (.float settings.headingSize)
  | .fontWeight, .header | .fontWeight, .detail => some (.text "bold")
  | .fontWeight, .body | .fontWeight, .footer => some (.text "normal")
  | .textAlign, .header => some (.text "center")
  | .textAlign, .body | .textAlign, .footer | .textAlign, .detail => some (.text "left")
  | _, _ => none

end StyleAttribute

namespace Render

open Schema (lookup_presentEntries_of_mem)

/-- The hints that stand in the document of a node. -/
def Node.HasHints (node : Node) (hints : List (String × Value)) : Prop :=
  ∃ attributes, node.toValue = .object attributes ∧
    attributes.lookup "styleHints" = some (.object hints)

/-- The style of a node stands in its document. -/
theorem Node.exists_style (node : Node) :
    ∃ attributes, node.toValue = .object attributes ∧
      attributes.lookup "styleHints" = node.style.map Style.toValue := by
  refine ⟨_, rfl, ?_⟩
  apply lookup_presentEntries_of_mem (by simp)
  simp

namespace Style

/-- What a style says of an attribute. -/
def hint? (style : Style) : StyleAttribute → Option Value
  | .fontSize => some (numberValue style.size)
  | .fontWeight => some (.text style.weight)
  | .textAlign => some (.text style.align)
  | .marginTop => style.marginTop.map numberValue
  | .marginBottom => style.marginBottom.map numberValue

/-- The document of a style says of each attribute what the style does. -/
theorem exists_hints (style : Style) :
    ∃ hints, style.toValue = .object hints ∧ ∀ a : StyleAttribute,
      hints.lookup a.name = style.hint? a := by
  refine ⟨_, rfl, fun a => ?_⟩
  apply lookup_presentEntries_of_mem (by simp)
  cases a <;> simp [StyleAttribute.name, hint?]

variable {start : Style} {s : TemplateSection} {v : Value}

theorem numberOr_of_isZero_eq_false {x : Binary64} (nonzero : x.isZero = false) (absent : Number) :
    numberOr (some x) absent = .float x := by
  simp [numberOr, nonzero]

theorem marginOr_of_isZero_eq_false {x : Binary64} (nonzero : x.isZero = false)
    (absent : Option Number) : marginOr (some x) absent = some (.float x) := by
  simp [marginOr, nonzero]

theorem numberOr_of_isZero {given : Option Binary64} (zero : ∀ x ∈ given, x.isZero = true)
    (absent : Number) : numberOr given absent = absent := by
  cases given with
  | none => rfl
  | some x => simp [numberOr, zero x rfl]

theorem marginOr_of_isZero {given : Option Binary64} (zero : ∀ x ∈ given, x.isZero = true)
    (absent : Option Number) : marginOr given absent = absent := by
  cases given with
  | none => rfl
  | some x => simp [marginOr, zero x rfl]

theorem bind_nonEmpty?_of_ne {text : String} (nonempty : text ≠ "") :
    (some text).bind nonEmpty? = some text :=
  if_neg nonempty

theorem bind_nonEmpty?_of_eq {given : Option String} (empty : ∀ text ∈ given, text = "") :
    given.bind nonEmpty? = none := by
  cases given with
  | none => rfl
  | some text => exact if_pos (empty text rfl)

/-- A change to anything but zero and the empty text is made. -/
theorem hint?_mergeOptional_of_given {a : StyleAttribute} (given : a.given? s = some v)
    (full : v.isVoid = false) : (start.mergeOptional s.style).hint? a = some v := by
  obtain ⟨change, styled, own⟩ := Option.bind_eq_some_iff.mp given
  rw [styled, mergeOptional, Option.elim_some]
  cases a with
  | fontSize =>
      obtain ⟨x, held, rfl⟩ := Option.map_eq_some_iff.mp own
      simp only [hint?, merge, held, numberOr_of_isZero_eq_false full, numberValue]
  | fontWeight =>
      obtain ⟨text, held, rfl⟩ := Option.map_eq_some_iff.mp own
      simp only [hint?, merge, held, bind_nonEmpty?_of_ne (ne_of_beq_false full), Option.getD_some]
  | textAlign =>
      obtain ⟨text, held, rfl⟩ := Option.map_eq_some_iff.mp own
      simp only [hint?, merge, held, bind_nonEmpty?_of_ne (ne_of_beq_false full), Option.getD_some]
  | marginTop =>
      obtain ⟨x, held, rfl⟩ := Option.map_eq_some_iff.mp own
      simp only [hint?, merge, held, marginOr_of_isZero_eq_false full, numberValue, Option.map_some]
  | marginBottom =>
      obtain ⟨x, held, rfl⟩ := Option.map_eq_some_iff.mp own
      simp only [hint?, merge, held, marginOr_of_isZero_eq_false full, numberValue, Option.map_some]

/-- A change to zero or to the empty text is as good as none. -/
theorem hint?_mergeOptional_of_void {a : StyleAttribute}
    (void : ∀ v ∈ a.given? s, v.isVoid = true) :
    (start.mergeOptional s.style).hint? a = start.hint? a := by
  cases styled : s.style with
  | none => rfl
  | some change =>
      rw [mergeOptional, Option.elim_some]
      rw [StyleAttribute.given?, styled, Option.bind_some] at void
      cases a with
      | fontSize =>
          have zero : ∀ x ∈ change.fontSize, x.isZero = true := Option.forall_mem_map.mp void
          simp only [hint?, merge, numberOr_of_isZero zero]
      | fontWeight =>
          have empty : ∀ text ∈ change.fontWeight, (text == "") = true := Option.forall_mem_map.mp void
          simp only [beq_iff_eq] at empty
          simp only [hint?, merge, bind_nonEmpty?_of_eq empty, Option.getD_none]
      | textAlign =>
          have empty : ∀ text ∈ change.textAlign, (text == "") = true := Option.forall_mem_map.mp void
          simp only [beq_iff_eq] at empty
          simp only [hint?, merge, bind_nonEmpty?_of_eq empty, Option.getD_none]
      | marginTop =>
          have zero : ∀ x ∈ change.marginTop, x.isZero = true := Option.forall_mem_map.mp void
          simp only [hint?, merge, marginOr_of_isZero zero]
      | marginBottom =>
          have zero : ∀ x ∈ change.marginBottom, x.isZero = true := Option.forall_mem_map.mp void
          simp only [hint?, merge, marginOr_of_isZero zero]

end Style

namespace Renderer

variable {settings : Settings} {kind : SectionKind}

/-- Settings describe a renderer for each kind for running text, and the style that it starts
from. -/
theorem exists_renderer_of_isStyled (styled : kind.isStyled = true) :
    ∃ r start, ofSettings settings kind = .ok r ∧ r.defaultStyle? = some start ∧
      ∀ a : StyleAttribute, start.hint? a = a.standard? settings kind := by
  cases kind with
  | header | body | footer | detail =>
      refine ⟨_, _, rfl, rfl, fun a => ?_⟩
      cases a <;> rfl
  | separator | table | signature => cases styled

/-- A renderer that starts from a style gives every section a node, with hints for what becomes
of this style in the section. -/
theorem exists_hints_of_render {r : Renderer} {start : Style} {s : TemplateSection} {data : Record}
    {node? : Option Node} (starts : r.defaultStyle? = some start)
    (done : (r.render s data).result = .ok node?) :
    ∃ node hints, node? = some node ∧ node.HasHints hints ∧ ∀ a : StyleAttribute,
      hints.lookup a.name = (start.mergeOptional s.style).hint? a := by
  have style := style_of_render done
  rw [styleOf, starts, Option.map_some] at style
  obtain ⟨node, rfl, own⟩ := Option.bind_eq_some_iff.mp style
  obtain ⟨hints, object, each⟩ := (start.mergeOptional s.style).exists_hints
  refine ⟨node, hints, rfl, ?_, each⟩
  obtain ⟨attributes, document, held⟩ := node.exists_style
  rw [own, Option.map_some, object] at held
  exact ⟨attributes, document, held⟩

/-- Whatever the settings, a section of a kind for running text and the record, the node that the
section becomes has hints, and they say of each attribute exactly what the section sets it to,
other than zero and the empty text, whatever it does with the other attributes. Of an attribute
that is not set so they say what the settings have for sections of this kind. -/
theorem render_honours_style (settings : Settings) (styled : kind.isStyled = true) :
    ∃ r, ofSettings settings kind = .ok r ∧
      ∀ (s : TemplateSection) (data : Record) (node? : Option Node),
        (r.render s data).result = .ok node? →
        ∃ node hints, node? = some node ∧ node.HasHints hints ∧ ∀ a : StyleAttribute,
          (∀ v, a.given? s = some v → v.isVoid = false → hints.lookup a.name = some v) ∧
          ((∀ v ∈ a.given? s, v.isVoid = true) →
            hints.lookup a.name = a.standard? settings kind) := by
  obtain ⟨r, start, described, starts, standard⟩ := exists_renderer_of_isStyled styled
  refine ⟨r, described, fun s data node? done => ?_⟩
  obtain ⟨node, hints, rfl, shown, each⟩ := exists_hints_of_render starts done
  refine ⟨node, hints, rfl, shown, fun a => ⟨fun v given full => ?_, fun void => ?_⟩⟩
  · rw [each, Style.hint?_mergeOptional_of_given given full]
  · rw [each, Style.hint?_mergeOptional_of_void void, standard]

/-- A header that sets an undefined size, no weight, an alignment and a negative zero as its
margin has the first and the third of them. -/
theorem render_honours_style_header :
    let settings : Settings :=
      { separatorWidth := 80, signatureBlank := "____", readsLegacyRows := true,
        fillsDefaults := true, headerSize := .ofInt 18, headingSize := .ofInt 13,
        bodySize := .ofInt 11, footerSize := .ofInt 9, logLevel := "INFO", logDirectory := none }
    let s : TemplateSection :=
      { id := "h", kindName := "header", content := some "\x7b\x7bname\x7d\x7d",
        style := some
          { fontSize := some .nan, fontWeight := some "", textAlign := some "right",
            marginTop := some (.ofRank true 0) } }
    let data : Record := ⟨[("name", .text "Ann")]⟩
    ∃ (r : Renderer) (node : Node) (hints : List (String × Value)),
      ofSettings settings .header = .ok r ∧ (r.render s data).result = .ok (some node) ∧
      node.HasHints hints ∧
      hints.lookup "fontSize" = some (.float .nan) ∧
      hints.lookup "fontWeight" = some (.text "bold") ∧
      hints.lookup "textAlign" = some (.text "right") ∧
      hints.lookup "marginTop" = none ∧ hints.lookup "marginBottom" = none := by
  intro settings s data
  have styled : SectionKind.isStyled .header = true := rfl
  obtain ⟨r, described, honours⟩ := render_honours_style settings styled
  obtain rfl := Except.ok.inj described
  let r : Renderer := .header (.float settings.headerSize)
  have computed : (r.render s data).result.toOption.map (·.bind Node.text) = some (some "Ann") := by
    decide +kernel
  obtain ⟨node?, done, -⟩ := eq_ok_of_toOption_map computed
  obtain ⟨node, hints, rfl, shown, each⟩ := honours s data node? done
  refine ⟨r, node, hints, described, done, shown, ?_, ?_, ?_, ?_, ?_⟩
  · exact (each .fontSize).1 _ rfl rfl
  · exact (each .fontWeight).2 fun v mem => by cases mem; rfl
  · exact (each .textAlign).1 _ rfl rfl
  · exact (each .marginTop).2 fun v mem => by cases mem; rfl
  · exact (each .marginBottom).2 fun v mem => by cases mem

/-- A body that sets its upper margin to zero has no such margin in its hints. -/
theorem render_drops_zero_margin :
    let settings : Settings :=
      { separatorWidth := 80, signatureBlank := "____", readsLegacyRows := true,
        fillsDefaults := true, headerSize := .ofInt 18, headingSize := .ofInt 13,
        bodySize := .ofInt 11, footerSize := .ofInt 9, logLevel := "INFO", logDirectory := none }
    let s : TemplateSection :=
      { id := "s", kindName := "body", content := some "x",
        style := some { marginTop := some .zero } }
    ∃ (r : Renderer) (node : Node) (hints : List (String × Value)),
      ofSettings settings .body = .ok r ∧
      (r.render s .empty).result = .ok (some node) ∧ node.HasHints hints ∧
      StyleAttribute.given? .marginTop s = some (.float .zero) ∧
      hints.lookup "marginTop" = none := by
  intro settings s
  let r : Renderer := .body (.float settings.bodySize)
  have computed : (r.render s .empty).result.toOption.map (·.bind Node.text) = some (some "x") := by
    decide
  obtain ⟨node?, done, -⟩ := eq_ok_of_toOption_map computed
  obtain ⟨node, hints, rfl, shown, each⟩ := exists_hints_of_render rfl done
  refine ⟨r, node, hints, rfl, done, shown, rfl, (each .marginTop).trans ?_⟩
  exact Style.hint?_mergeOptional_of_void fun v mem => by cases mem; rfl

end Renderer

end Render

end Stencil
