/-
# What an engine warns of

An engine warns of a declaration that it drops because a field of another type was kept for the
key, of a broken pattern that it passes over, and of a table that falls back to the rows under
the key of old. When a document is made, there was one warning for each of these, in this order,
and no other. When none is made, the warnings end with the failure.
-/

import Stencil.Proofs.Engine.Generation
import Stencil.Proofs.Field.Checkable
import Stencil.Proofs.Log.Warnings
import Stencil.Template.Load

namespace Stencil

/-- Whether a text is a pattern. -/
@[simp]
def Pattern.isPattern (text : String) : Bool :=
  match read text with
  | .pattern _ => true
  | .noPattern | .refused _ => false

namespace Field

variable {f : Field} {v : Value} {data : Record}

/-- Whether a field sets a text for a pattern that is none. The empty text sets no pattern. -/
def hasBrokenPattern (f : Field) : Bool := f.patternText?.any fun text => !Pattern.isPattern text

/-- What is recorded where the pattern of a field is passed over. -/
def patternIgnored [Machine] (f : Field) : Event :=
  .patternIgnored f.key (f.patternText?.bind Machine.patternFault)

/-- Whether the value of a field is present and is not checked because its pattern is broken. -/
def dropsPattern (data : Record) (f : Field) : Bool :=
  (data.value f.key).isPresent && f.hasBrokenPattern

theorem warns_patternViolations [Machine] :
    (f.patternViolations v).Warns (if f.hasBrokenPattern then [f.patternIgnored] else []) := by
  rw [hasBrokenPattern, patternIgnored, patternViolations_eq]
  cases f.patternText? with
  | none => exact Traced.warns_pure []
  | some text =>
      rw [Option.any_some, Option.bind_some, Pattern.isPattern]
      dsimp only
      split
      · exact Traced.warns_fail _ _
      cases Pattern.read text with
      | refused refusal => exact Traced.warns_fail _ _
      | noPattern =>
          exact (Traced.warns_notes_if true rfl).then_silent fun _ _ => Traced.warns_pure []
      | pattern pattern => exact Traced.warns_of_events_eq_nil rfl

theorem warns_violations [Machine] :
    (f.violations data).Warns (if f.dropsPattern data then [f.patternIgnored] else []) := by
  by_cases present : (data.value f.key).isPresent = true
  · simp only [violations, dropsPattern, present, if_true, Bool.true_and]
    refine Traced.warns_ofExcept_bind fun range => ?_
    refine warns_patternViolations.then_silent fun pattern _ => ?_
    exact Traced.warns_ofExcept_bind fun options => Traced.warns_pure _
  · simpa [violations, dropsPattern, present] using Traced.warns_pure []

end Field

/-- Checking the values of fields warns of each broken pattern, in field order. -/
theorem warns_brokenRules [Machine] (data : Record) (fields : List Field) :
    (brokenRules data fields).Warns
      ((fields.filter (Field.dropsPattern data)).map Field.patternIgnored) := by
  induction fields with
  | nil => exact Traced.warns_pure []
  | cons f rest ih =>
      rw [Traced.map_filter_cons]
      exact Field.warns_violations.bind fun _ _ => ih.then_silent fun _ _ => Traced.warns_pure _

namespace Render

variable {s : TemplateSection} {data : Record}

/-- Whether a section has no rows of its own while there are some under the key of old. -/
def lacksOwnRows (data : Record) (s : TemplateSection) : Bool :=
  (data.value s.id).isNull && !(data.value legacyRowsKey).isNull

theorem isLegacy_rowSource (readsLegacyRows : Bool) :
    (rowSource readsLegacyRows s data).2 = (readsLegacyRows && lacksOwnRows data s) := by
  cases own : (data.value s.id).isNull <;> cases readsLegacyRows <;>
    cases old : (data.value legacyRowsKey).isNull
  all_goals simp [rowSource, lacksOwnRows, own, old]

/-- A renderer warns of nothing but the rows under the key of old. -/
theorem Renderer.warns_render [Machine] (r : Renderer) (s : TemplateSection) (data : Record) :
    (r.render s data).Warns
      (if r = .table true ∧ s.columnList ≠ [] ∧ lacksOwnRows data s = true then
        [.legacyRowsUsed s.id] else []) := by
  cases r with
  | header size | body size | footer size =>
      exact Traced.warns_ofExcept_bind fun text => Traced.warns_pure _
  | detail size =>
      refine Traced.warns_ofExcept_bind fun lines => ?_
      refine Traced.warns_ofExcept_bind fun title => ?_
      exact Traced.warns_ofExcept_bind fun text => Traced.warns_pure _
  | separator divider => exact Traced.warns_pure _
  | table readsLegacyRows =>
      by_cases columns : s.columnList = []
      · simpa [render, columns] using Traced.warns_note_pure rfl none
      · have warned : ((Renderer.table readsLegacyRows).render s data).Warns
            (if readsLegacyRows && lacksOwnRows data s then [.legacyRowsUsed s.id] else []) := by
          simp only [render, List.isEmpty_iff, columns, if_false, isLegacy_rowSource]
          refine (Traced.warns_notes_if _ rfl).then_silent fun _ _ => ?_
          refine Traced.warns_ofExcept_bind fun title => ?_
          exact Traced.warns_ofExcept_bind fun rows => Traced.warns_pure _
        simpa [columns] using warned
  | signature blank =>
      refine Traced.warns_ofExcept_bind fun lines => ?_
      exact Traced.warns_ofExcept_bind fun title => Traced.warns_pure _

namespace Registry

variable {registry : Registry}

/-- Whether a section is a visible table with columns that has to take its rows from under the
key of old, and may. -/
def fallsBack (registry : Registry) (data : Record) (s : TemplateSection) : Bool :=
  registry.renderer .table = .table true && s.isVisible data && s.hasRows && lacksOwnRows data s

theorem warns_renderSection [Machine] :
    (registry.renderSection s data).Warns
      (if registry.fallsBack data s then [.legacyRowsUsed s.id] else []) := by
  by_cases visible : s.isVisible data = true
  · cases known : s.kind? with
    | none =>
        simpa [renderSection, fallsBack, TemplateSection.hasRows, visible, known] using
          Traced.warns_note_pure rfl none
    | some kind =>
        have warned := (registry.renderer kind).warns_render s data
        by_cases table : kind = .table
        · subst table
          simpa [renderSection, fallsBack, TemplateSection.hasRows, visible, known, and_assoc]
            using warned
        · have other : registry.renderer kind ≠ .table true := fun same =>
            table (by rw [← registry.kind_renderer kind, same]; rfl)
          simpa [renderSection, fallsBack, TemplateSection.hasRows, visible, known, table, other]
            using warned
  · simpa [renderSection, fallsBack, visible] using Traced.warns_note_pure rfl none

/-- Rendering sections warns of each table that falls back, in section order. -/
theorem warns_renderSections [Machine] (registry : Registry) (data : Record)
    (sections : List TemplateSection) :
    (registry.renderSections data sections).Warns
      ((sections.filter (registry.fallsBack data)).map fun s => .legacyRowsUsed s.id) := by
  induction sections with
  | nil => exact Traced.warns_pure []
  | cons s rest ih =>
      rw [Traced.map_filter_cons]
      exact warns_renderSection.bind fun _ _ => ih.then_silent fun _ _ => Traced.warns_pure _

theorem warns_render [Machine] (registry : Registry) (t : Template) (data : Record) :
    (registry.render t data).Warns
      ((t.sections.filter (registry.fallsBack data)).map fun s => .legacyRowsUsed s.id) := by
  refine (registry.warns_renderSections data t.sections).then_silent fun nodes _ => ?_
  exact Traced.warns_note_pure rfl nodes

end Registry

end Render

/-- Discovering the fields of a template warns of each conflict. -/
theorem Template.warns_discover (t : Template) :
    t.discover.Warns (t.discovery.conflicts.map Conflict.toEvent) := by
  refine .of_eq ?_
  have warnings : ∀ event ∈ t.discovery.conflicts.map Conflict.toEvent,
      event.isWarning = true := by
    intro event mem
    obtain ⟨c, -, rfl⟩ := List.mem_map.mp mem
    rfl
  simp only [Traced.warnings, Template.discover, List.filter_append]
  rw [List.filter_eq_self.mpr warnings]
  simp [Event.isWarning, Event.level]

namespace Engine

/-- The warnings that are due for a template: one for each conflict between its fields, one for
each broken pattern, and one for each table that falls back to the rows under the key of old. -/
def dueWarnings [Machine] (e : Engine) (t : Template) (found : Discovery) (data : Record) :
    List Event :=
  found.conflicts.map Conflict.toEvent ++
  (found.fields.filter (Field.dropsPattern data)).map Field.patternIgnored ++
  (t.sections.filter (e.renderer.item.registry.fallsBack data)).map fun s => .legacyRowsUsed s.id

theorem warns_generate [Machine] (e : Engine) (t : Template) (data : Record) :
    (e.generate t (.object data.entries)).Warns
      (e.dueWarnings t t.discovery (e.prepare t data)) := by
  simp only [generate, Value.asOptionalData, Value.asData, Traced.ofExcept_ok, pure_bind,
    dueWarnings, List.append_assoc]
  refine t.warns_discover.bind fun discovery found => ?_
  obtain rfl : t.discovery = discovery := Except.ok.inj found
  refine (warns_brokenRules _ _).bind fun violations _ => ?_
  refine (Render.Registry.warns_render _ _ _).then_silent fun nodes _ => ?_
  refine Traced.Warns.bind_silent ?_ fun _ _ => Traced.warns_pure _
  split
  · exact Traced.warns_of_events_eq_nil rfl
  · exact Traced.warns_note_of_not_isWarning rfl

/-- The log of an engine tells what was dropped. Whatever the template and the record, its lines
at the level of a warning begin the list of one line for each conflict, in their order, one for
each field found whose value is present and whose pattern is broken, in field order, and one for
each visible table with columns that has no rows of its own and falls back to those under the
key of old, in section order. If a document is made, they are this whole list, as its own
conflicts, fields and data give it. -/
theorem generate_warnings [Machine] (e : Engine) (t : Template) (data : Record) :
    let run := e.generate t (.object data.entries)
    let lines := (run.events.map Event.toRecord).filter fun line => line.level = .warning
    lines <+: (e.dueWarnings t t.discovery (e.prepare t data)).map Event.toRecord ∧
      ∀ d, run.result = .ok d →
        lines = (e.dueWarnings t ⟨d.fields, d.conflicts⟩ d.data).map Event.toRecord := by
  intro run lines
  have same : lines = run.warnings.map Event.toRecord := run.filter_lines_eq
  have warned : run.Warns (e.dueWarnings t t.discovery (e.prepare t data)) :=
    e.warns_generate t data
  refine ⟨?_, fun d made => ?_⟩
  · rw [same]
    exact warned.starts.map Event.toRecord
  · have parts := makes_of_generate made
    rw [same, warned.complete d made, parts.fields_eq, parts.conflicts_eq, parts.data_eq]

/-- One of two fields for a key is dropped. Of two broken patterns one has no value to check, and
of three tables one has rows of its own and one is hidden. -/
theorem generate_warnings_order :
    let e : Engine := ⟨true, ⟨0, ⟨[], .standard⟩⟩⟩
    let column : Column := { id := "c", key := "c", label := "C" }
    let table : TemplateSection := { id := "old", kindName := "table", columns := some [column] }
    let t : Template :=
      { id := "order", name := "Order",
        fields :=
          [{ id := "a", key := "code", label := "Code", rules := some { pattern := some "(" } },
           { id := "n", key := "name", label := "Name", rules := some { pattern := some "[" } },
           { id := "q", key := "qty", label := "Quantity", rules := some { pattern := some "7" } }],
        sections :=
          [{ id := "s", kindName := "section",
             fields := some [{ id := "b", key := "code", label := "Code", type := .number }] },
           table, { table with id := "own" },
           { table with id := "off", condition := some { showIf := some "name" } }] }
    let data : Record :=
      ⟨[("code", .text "x"), ("name", .text ""), ("qty", .text "7"), ("own", .list []),
        ("tableData", .list [])]⟩
    ∃ d, (e.generate t (.object data.entries)).result = .ok d ∧
      ((e.generate t (.object data.entries)).events.map Event.toRecord).filter
          (fun line => line.level = .warning) =
        [⟨"doctemplate.strategies.template_engine.discovery", .warning,
          "Field key conflict on 'code': keeping text field 'a', " ++
            "ignoring number field 'b' from section:s"⟩,
         ⟨"doctemplate.strategies.template_engine.validator", .warning,
          "Ignoring invalid pattern on field 'code'"⟩,
         ⟨"doctemplate.strategies.sections.table", .warning,
          "Table section 'old' reads rows from deprecated 'tableData' key; " ++
            "key the rows by section id instead"⟩] := by
  intro e column table t data
  obtain ⟨d, made⟩ : HasResult (e.generate t (.object data.entries)).result :=
    hasResult_of_isSome (by decide)
  have parts := makes_of_generate made
  refine ⟨d, made, ?_⟩
  rw [(e.generate_warnings t data).2 d made, parts.fields_eq, parts.conflicts_eq, parts.data_eq]
  decide

/-- A template that loads, small texts as data, and every engine: two patterns are broken, and the
log has no line at the level of a warning. The first pattern repeats a letter more often than a
pattern may say, which ends the work on the document. -/
theorem generate_warns_of_nothing_on_refused_pattern :
    let pattern := "a\x7b4294967295\x7d"
    let field (id key pattern : String) : Value := .object
      [("id", .text id), ("key", .text key), ("label", .text "L"), ("type", .text "text"),
       ("validation", .object [("pattern", .text pattern)])]
    let source : Value := .object
      [("id", .text "t"), ("name", .text "n"), ("sections", .list []),
       ("fields", .list [field "f" "k" pattern, field "g" "m" "("])]
    let t : Template :=
      { id := "t", name := "n",
        fields :=
          [{ id := "f", key := "k", label := "L", rules := some { pattern := some pattern } },
           { id := "g", key := "m", label := "L", rules := some { pattern := some "(" } }] }
    let data : Record := ⟨[("k", .text "x"), ("m", .text "y")]⟩
    (Template.load source).result = .ok t ∧
      ∀ e : Engine,
        e.dueWarnings t t.discovery (e.prepare t data) =
          [.patternIgnored "k" none, .patternIgnored "m" none] ∧
        ((e.generate t (.object data.entries)).events.map Event.toRecord).filter
          (fun line => line.level = .warning) = [] := by
  intro pattern field source t data
  have loaded : (Template.load source).result = .ok t := by
    obtain ⟨other, done, same⟩ := eq_ok_of_toOption_map
      (show (Template.load source).result.toOption.map id = some t by decide +kernel)
    rw [done, ← same, id]
  refine ⟨loaded, fun e => ?_⟩
  have prepared : e.prepare t data = data := by
    simp [prepare, t, Template.declaredFields, Record.withDefaults, Record.fill]
  have found : t.discovery = ⟨t.fields, []⟩ := by decide +kernel
  have dropped : t.fields.filter (Field.dropsPattern data) = t.fields := by decide +kernel
  have silent : t.discover.warnings = [] ∧ (brokenRules data t.fields).warnings = [] := by
    decide +kernel
  have failed : ∃ failure, (brokenRules data t.fields).result = .error failure := by
    have broken : (brokenRules data t.fields).result.toOption.isNone = true := by decide +kernel
    cases outcome : (brokenRules data t.fields).result with
    | error failure => exact ⟨failure, rfl⟩
    | ok violations => simp [outcome, Except.toOption] at broken
  obtain ⟨failure, failed⟩ := failed
  refine ⟨?_, ?_⟩
  · rw [dueWarnings, prepared, found, dropped]
    rfl
  · have discovered : t.discover.result = .ok ⟨t.fields, []⟩ := congrArg Except.ok found
    have warnings : (e.generate t (.object data.entries)).warnings = [] := by
      simp only [generate, Value.asOptionalData, Value.asData, Traced.ofExcept_ok, pure_bind]
      rw [Traced.warnings_bind_of_ok discovered, prepared, Traced.warnings_bind_of_error failed,
        silent.1, silent.2, List.append_nil]
    rw [Traced.filter_lines_eq, warnings, List.map_nil]

end Engine

end Stencil
