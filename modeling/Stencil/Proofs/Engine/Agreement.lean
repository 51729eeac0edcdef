/-
# Which keys have a value

A document reads its record in four places: for the tokens of texts, the lines of detail
sections, the lines of signature sections, and the check of required fields. Each of them
decides on its own whether a key has a value. They all decide alike, and where the key has
one they show the same text.
-/

import Mathlib.Data.List.Nodup
import Stencil.Proofs.Engine.Generation
import Stencil.Proofs.Field.Discovery
import Stencil.Proofs.Field.Required

namespace Stencil

namespace Document

/-- A key has no value anywhere in a document: its signature lines are blank markers, it has
no detail line, its tokens show their default texts, and it is reported once as missing if
the field found for it is required, and otherwise not at all. -/
structure Omits (d : Document) (t : Template) (key : String) : Prop where
  signatureLine : ∀ blank f, f.key = key →
    Render.signatureLine blank d.data f = { label := f.label, value := blank, isBlank := true }
  detailLine : ∀ f, f.key = key → Render.detailLine? d.data f = none
  token : ∀ token : Placeholder.Token, token.name = key →
    token.shown d.data = token.fallback.getD []
  count_missing :
    d.missing.count key = if (t.discovery.get? key).any Field.isRequired then 1 else 0

/-- A key has the same text everywhere in a document: on its signature lines, which are not
blank, on its detail lines, and in place of its tokens. It is not reported as missing. -/
structure Offers (d : Document) (key text : String) : Prop where
  signatureLine : ∀ blank f, f.key = key →
    Render.signatureLine blank d.data f = { label := f.label, value := text, isBlank := false }
  detailLine : ∀ f, f.key = key →
    Render.detailLine? d.data f = some { label := f.label, value := text, isBlank := false }
  token : ∀ token : Placeholder.Token, token.name = key → token.shown d.data = text.toList
  not_missing : key ∉ d.missing

end Document

namespace Engine

variable {e : Engine} {t : Template} {data : Record} {d : Document} {key : String}

theorem Makes.mem_missing (made : e.Makes t data d) :
    key ∈ d.missing ↔
      (d.data.value key).isPresent = false ∧
        (t.discovery.get? key).any Field.isRequired = true := by
  rw [made.missing_eq, mem_missingKeys, made.fields_eq, t.isConsistent_discovery.exists_mem_iff]

theorem Makes.nodup_missing (made : e.Makes t data d) : d.missing.Nodup := by
  rw [made.missing_eq]
  exact nodup_missingKeys d.fields d.data

theorem Makes.omits (made : e.Makes t data d) (absent : (d.data.value key).isPresent = false) :
    d.Omits t key := by
  have unshown := Record.shown?_of_not_isPresent absent
  constructor
  · rintro blank f rfl
    rw [Render.signatureLine, unshown]
  · rintro f rfl
    rw [Render.detailLine?, unshown, Option.map_none]
  · rintro token rfl
    rw [token.shown_eq_elim, unshown, Option.elim]
  · cases required : (t.discovery.get? key).any Field.isRequired with
    | true =>
        have mem : key ∈ d.missing := made.mem_missing.mpr ⟨absent, required⟩
        rw [List.count_eq_one_of_mem made.nodup_missing mem, if_pos rfl]
    | false =>
        have not_mem : key ∉ d.missing := fun mem => by
          simpa [required] using (made.mem_missing.mp mem).2
        rw [List.count_eq_zero_of_not_mem not_mem, if_neg (by decide)]

theorem Makes.offers (made : e.Makes t data d) (present : (d.data.value key).isPresent = true) :
    d.Offers key (d.data.value key).displayText := by
  have one := Record.shown?_of_isPresent present
  constructor
  · rintro blank f rfl
    rw [Render.signatureLine, one]
  · rintro f rfl
    rw [Render.detailLine?, one, Option.map_some]
  · rintro token rfl
    rw [token.shown_eq_elim, one, Option.elim]
  · intro mem
    rw [(made.mem_missing.mp mem).1] at present
    cases present

/-- All readers of a document agree on which keys have a value. The nodes are, one for one
and in order, those of the sections that are rendered, and show their lines and texts by the
record that the document keeps: a line for each field in a signature section, and one for
each field with a text in a detail section. A key whose value there is missing, null or the
empty text is left out everywhere, and any other key shows the display text of its value
everywhere. -/
theorem generate_omits_or_offers (made : (e.generate t (.object data.entries)).result = .ok d) :
    List.Forall₂ (e.renderer.item.registry.Shows d.data)
        (t.sections.filter (·.isRendered d.data)) d.nodes ∧
      ∀ key,
        (d.data.value key = .null ∨ d.data.value key = .text "" → d.Omits t key) ∧
        (¬ (d.data.value key = .null ∨ d.data.value key = .text "") →
          d.Offers key (d.data.value key).displayText) := by
  have parts := makes_of_generate made
  refine ⟨Render.Registry.shows_of_renderSections parts.nodes_eq, fun key => ⟨?_, ?_⟩⟩
  · intro absent
    exact parts.omits (Value.isPresent_eq_false_iff.mpr absent)
  · intro present
    rw [← Value.isPresent_eq_false_iff, Bool.not_eq_false] at present
    exact parts.offers present

/-- The name is empty, and the quantity is filled in as zero: the name has a blank marker, a
default text and no detail line, and the quantity is shown as zero in all three places. -/
theorem generate_omits_or_offers_order :
    let e : Engine := ⟨true, ⟨0, ⟨[], .standard⟩⟩⟩
    let name : Field := { id := "n", key := "name", label := "Name", isRequired := true }
    let quantity : Field :=
      { id := "q", key := "qty", label := "Quantity", type := .number,
        defaultValue := some (.int 0) }
    let t : Template :=
      { id := "order", name := "Order",
        sections :=
          [{ id := "s", kindName := "signature", fields := some [name, quantity] },
           { id := "d", kindName := "section", fields := some [name, quantity] },
           { id := "b", kindName := "body",
             content := some "\x7b\x7bname.nobody\x7d\x7d: \x7b\x7bqty\x7d\x7d" }] }
    let data : Record := ⟨[("name", .text ""), ("qty", .null)]⟩
    let nodes : List Render.Node :=
      [{ kind := .signature, sectionId := "s", title := some "Signature", hasSignatureLine := true,
         fieldLines := some
           [{ label := "Name", value := Render.Renderer.standardBlank, isBlank := true },
            { label := "Quantity", value := "0" }] },
       { kind := .detail, sectionId := "d", style := some { size := .int 13, weight := "bold" },
         fieldLines := some [{ label := "Quantity", value := "0" }] },
       { kind := .body, sectionId := "b", style := some { size := .int 11 },
         text := some "nobody: 0" }]
    ∃ d, (e.generate t (.object data.entries)).result = .ok d ∧ d.nodes = nodes ∧
      d.Omits t "name" ∧ d.Offers "qty" "0" := by
  intro e name quantity t data nodes
  have computed : (e.generate t (.object data.entries)).result.toOption.map Document.nodes =
      some nodes := by decide +kernel
  obtain ⟨d, made⟩ : HasResult (e.generate t (.object data.entries)).result :=
    hasResult_of_isSome (by decide +kernel)
  rw [made] at computed
  have kept : d.data = e.prepare t data := (makes_of_generate made).data_eq
  have empty : d.data.value "name" = .text "" := by rw [kept]; rfl
  have zero : d.data.value "qty" = .int 0 := by rw [kept]; rfl
  have agreed := (generate_omits_or_offers made).2
  refine ⟨d, made, Option.some.inj computed, (agreed "name").1 (.inr empty), ?_⟩
  have offers := (agreed "qty").2
  rw [zero] at offers
  have text : (Value.int 0).displayText = "0" := by decide
  rw [← text]
  exact offers (by rintro (h | h) <;> cases h)

end Engine

end Stencil
