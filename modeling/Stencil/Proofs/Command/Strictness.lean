/-
# When a printed document is strict

The sizes of the settings and the styles of the sections are the only sources of numbers in a
document. With finite sizes a document is therefore printed as a strict one exactly when no
section that it shows sets a number in its style that is not finite. Templates are read with
such numbers, and nothing on their way to the document stops them.
-/

import Stencil.Proofs.Command.Making
import Stencil.Proofs.Json.Unquoted
import Stencil.Proofs.Render.Finite

namespace Stencil

variable {settings : Settings}

/-- By settings with finite sizes renderers start from finite styles. -/
theorem Engine.Obeys.startsFinite {e : Engine} (obeys : e.Obeys settings)
    (finite : ∀ x ∈ settings.sizes, x.isFinite = true) (kind : SectionKind) :
    (e.renderer.item.registry.renderer kind).StartsFinite := by
  intro style start
  obtain ⟨x, mem, size, top, bottom⟩ := obeys.defaultStyle start
  refine ⟨?_, by simp [top], by simp [bottom]⟩
  rw [size]
  exact finite x mem

namespace Command

/-- A value is printed as a strict document exactly when all numbers in it are finite. -/
theorem isStrictText_printed_iff {v : Value} :
    Json.IsStrictText (printed v).toList ↔ v.IsFinite := by
  have lineEnd : Json.IsGapText ['\n'] := List.forall_mem_singleton.mpr rfl
  rw [← Json.isStrictText_print_iff Json.documentStyle_namesOthers lineEnd, printed, printedChars,
    Json.print, String.toList_ofList, String.toList_ofList]

/-- The summary of a document holds finite numbers only, and is printed as a strict document,
exactly when no section that is shown sets a number that is not finite in the style of running
text. -/
theorem strict_summary_iff (settings : Settings) (t : Template) (data : Value) (d : Document)
    (finite : ∀ x ∈ settings.sizes, x.isFinite = true)
    (made : (makeDocument settings t data).result = .ok d) :
    (d.summary.IsFinite ↔
      ∀ s ∈ t.sections, s.IsShownBy d.data → ∀ kind ∈ s.kind?, kind.isStyled = true →
        ∀ x ∈ s.styleNumbers, x.isFinite = true) ∧
    (Json.IsStrictText (printed d.summary).toList ↔ d.summary.IsFinite) := by
  obtain ⟨e, record, obeys, -, makes⟩ := makes_of_makeDocument made
  have styles := Render.Registry.styles_of_renderSections makes.nodes_eq
  refine ⟨?_, isStrictText_printed_iff⟩
  rw [Document.isFinite_summary, styles]
  have each (s : TemplateSection) :
      (∀ style ∈ e.renderer.item.registry.style? d.data s, style.IsFinite) ↔ _ :=
    Render.Registry.isFinite_style? (obeys.startsFinite finite)
  simp only [← each, List.mem_filterMap, forall_exists_index, and_imp]
  exact ⟨fun all s mem style held => all style s mem held,
    fun all style s mem held => all s mem style held⟩

/-- A hidden section and a divider set numbers that are not finite, which no node shows, and the
size of zero gives way to that of the settings. -/
theorem strict_summary_iff_letter :
    let settings : Settings :=
      { separatorWidth := 5, signatureBlank := "__", readsLegacyRows := true, fillsDefaults := true,
        headerSize := .ofInt 18, headingSize := .ofInt 13, bodySize := .ofInt 11,
        footerSize := .ofInt 9, logLevel := "INFO", logDirectory := none }
    let t : Template :=
      { id := "letter", name := "Letter",
        sections :=
          [{ id := "a", kindName := "body", content := some "NaN, she wrote: \"Infinity\"",
             style := some { fontSize := some .zero, marginTop := some (.ofInt 2) } },
           { id := "b", kindName := "footer", style := some { fontSize := some .nan },
             condition := some { showIf := some "draft" } },
           { id := "c", kindName := "separator",
             style := some { marginTop := some (.infinite true) } }] }
    (∀ x ∈ settings.sizes, x.isFinite = true) ∧
      ∃ d, (makeDocument settings t (.object [])).result = .ok d ∧ d.nodes.length = 2 ∧
        Json.IsStrictText (printed d.summary).toList := by
  intro settings t
  have finite : ∀ x ∈ settings.sizes, x.isFinite = true := by decide +kernel
  have shown : (makeDocument settings t (.object [])).result.toOption.map
      (fun d => (d.nodes.length, Json.holdsName d.summary)) = some (2, false) := by decide +kernel
  obtain ⟨d, made, found⟩ := eq_ok_of_toOption_map shown
  obtain ⟨count, names⟩ := Prod.mk.inj found
  have strict := (strict_summary_iff settings t _ d finite made).2.mpr
    (Json.holdsName_eq_false_iff.mp names)
  exact ⟨finite, d, made, count, strict⟩

/-- By settings of which none is given, a template is loaded that sets an undefined size, and
its document is printed with the name of that number in it. -/
theorem printed_names_undefined_size :
    let source := "\x7b\"id\": \"t\", \"name\": \"n\", \"sections\": [\x7b\"id\": \"s\", " ++
      "\"type\": \"body\", \"style\": \x7b\"fontSize\": NaN\x7d\x7d]\x7d"
    ∃ settings t d, (Settings.load {}).result = .ok settings ∧
      (∀ x ∈ settings.sizes, x.isFinite = true) ∧
      (Template.loadText source).result = .ok t ∧
      (makeDocument settings t (.object [])).result = .ok d ∧
      ¬ d.summary.IsFinite ∧ ¬ Json.IsStrictText (printed d.summary).toList := by
  intro source
  have run : ((Settings.load {}).result.toOption.any fun settings =>
      settings.sizes.all Binary64.isFinite &&
        (Template.loadText source).result.toOption.any fun t =>
          (makeDocument settings t (.object [])).result.toOption.any fun d =>
            Json.holdsName d.summary) = true := by decide +kernel
  obtain ⟨settings, configured, rest⟩ := eq_ok_of_toOption_any run
  rw [Bool.and_eq_true, List.all_eq_true] at rest
  obtain ⟨finite, rest⟩ := rest
  obtain ⟨t, loaded, rest⟩ := eq_ok_of_toOption_any rest
  obtain ⟨d, made, names⟩ := eq_ok_of_toOption_any rest
  have infinite : ¬ d.summary.IsFinite := by
    intro holds
    rw [Json.holdsName_eq_false_iff.mpr holds] at names
    cases names
  have notStrict : ¬ Json.IsStrictText (printed d.summary).toList := by
    rwa [isStrictText_printed_iff]
  exact ⟨settings, t, d, configured, finite, loaded, made, infinite, notStrict⟩

end Command

end Stencil
