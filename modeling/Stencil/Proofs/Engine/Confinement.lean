/-
# What a document depends on

A section reads the keys of its condition, the keys of its declared fields, the keys
that its texts refer to, and, as a table with columns, its own identifier and the key
under which templates of old keep their rows. All of them but the condition keys and
that old key are found by discovery. Two records that agree on these keys therefore
make the same document, whatever else they hold.
-/

import Stencil.Engine.Basic
import Stencil.Proofs.Field.Discovery
import Stencil.Proofs.Log.Trace
import Stencil.Proofs.Placeholder.Substitution

namespace Stencil

variable {first second : Record}

namespace TemplateSection

/-- The keys whose values a section can show. -/
def shownKeys (s : TemplateSection) : List String :=
  s.declared.map Field.key ++ s.mentionedKeys ++
    if s.hasRows then [s.id, Render.legacyRowsKey] else []

/-- All keys that the rendering of a section may look up. -/
def readKeys (s : TemplateSection) : List String := s.conditionKeys ++ s.shownKeys

variable {s : TemplateSection}

theorem mem_shownKeys_of_mem_declared {f : Field} (mem : f ∈ s.declared) :
    f.key ∈ s.shownKeys := by
  simp only [shownKeys, List.mem_append]
  exact .inl (.inl (List.mem_map_of_mem mem))

theorem mem_shownKeys_of_mem_content {key : String}
    (mem : key ∈ Placeholder.keys (s.content.getD "")) : key ∈ s.shownKeys := by
  simp only [shownKeys, mentionedKeys, List.mem_append]
  exact .inl (.inr (.inl mem))

theorem mem_shownKeys_of_mem_title {key : String}
    (mem : key ∈ Placeholder.keys (s.title.getD "")) : key ∈ s.shownKeys := by
  simp only [shownKeys, mentionedKeys, List.mem_append]
  exact .inl (.inr (.inr mem))

/-- Whether a section is visible depends on the keys of its condition. -/
theorem isVisible_congr (agree : first.AgreesOn s.conditionKeys second) :
    s.isVisible first = s.isVisible second := by
  cases given : s.condition with
  | none => simp [isVisible, given]
  | some c =>
      have agrees : ∀ key, c.showIf.bind Render.nonEmpty? = some key ∨
          c.hideIf.bind Render.nonEmpty? = some key → first.value key = second.value key := by
        intro key either
        apply agree
        simpa [conditionKeys, given] using either
      simp only [isVisible, given]
      congr 1
      · cases showIf : c.showIf.bind Render.nonEmpty? with
        | none => rfl
        | some key => simp [agrees key (.inl showIf)]
      · cases hideIf : c.hideIf.bind Render.nonEmpty? with
        | none => rfl
        | some key => simp [agrees key (.inr hideIf)]

end TemplateSection

namespace Render

variable {s : TemplateSection}

theorem filledLine_congr {occasion : Occasion} {f : Field}
    (same : first.value f.key = second.value f.key) :
    filledLine occasion first f = filledLine occasion second f := by
  rw [filledLine, filledLine, same]

/-- The lines of a detail section depend on the values of its fields. -/
theorem detailLines_congr {fields : List Field}
    (agree : ∀ f ∈ fields, first.value f.key = second.value f.key) :
    detailLines fields first = detailLines fields second := by
  have present : fields.filter (fun f => (first.value f.key).isPresent) =
      fields.filter fun f => (second.value f.key).isPresent :=
    List.filter_congr fun f mem => by rw [agree f mem]
  rw [detailLines, detailLines, present]
  apply mapM_except_congr
  intro f mem
  exact filledLine_congr (agree f (List.mem_filter.mp mem |>.1))

/-- The lines of a signature section depend on the values of its fields. -/
theorem signatureLines_congr {blank : String} {fields : List Field}
    (agree : ∀ f ∈ fields, first.value f.key = second.value f.key) :
    signatureLines blank fields first = signatureLines blank fields second := by
  apply mapM_except_congr
  intro f mem
  rw [agree f mem, filledLine_congr (agree f mem)]

/-- Where a table takes its rows from depends on two keys. -/
theorem rowSource_congr (readsLegacyRows : Bool)
    (agree : first.AgreesOn [s.id, legacyRowsKey] second) :
    rowSource readsLegacyRows s first = rowSource readsLegacyRows s second := by
  simp only [rowSource, agree s.id (by simp), agree legacyRowsKey (by simp)]

/-- What a text of a section becomes depends on the keys that it refers to. -/
theorem substituteOptional_congr (text? : Option String)
    (agree : first.AgreesOn (Placeholder.keys (text?.getD "")) second) :
    Placeholder.substituteOptional text? first = Placeholder.substituteOptional text? second :=
  Placeholder.substitute_congr agree

/-- What a section becomes depends on the keys whose values it can show. -/
theorem Renderer.render_congr {r : Renderer} (kind : s.kind? = some r.kind)
    (agree : first.AgreesOn s.shownKeys second) : r.render s first = r.render s second := by
  have content := substituteOptional_congr s.content
    (agree.mono fun key => TemplateSection.mem_shownKeys_of_mem_content)
  have title := substituteOptional_congr s.title
    (agree.mono fun key => TemplateSection.mem_shownKeys_of_mem_title)
  have declared : ∀ f ∈ s.declared, first.value f.key = second.value f.key :=
    fun f mem => agree f.key (TemplateSection.mem_shownKeys_of_mem_declared mem)
  cases r with
  | header size => simp only [render, content]
  | body size => simp only [render, content]
  | footer size => simp only [render, content]
  | detail size => simp only [render, content, title, detailLines_congr declared]
  | separator divider => rfl
  | signature blank => simp only [render, title, signatureLines_congr declared]
  | table readsLegacyRows =>
      by_cases columns : s.columnList.isEmpty
      · simp only [render, columns, if_true]
      · have rows : s.hasRows = true := by
          simp [TemplateSection.hasRows, kind, Renderer.kind, columns]
        have source := rowSource_congr readsLegacyRows
          (agree.mono fun key mem => by
            rw [TemplateSection.shownKeys, if_pos rows]
            exact List.mem_append_right _ mem)
        simp only [render, columns, Bool.false_eq_true, if_false, source, title]

namespace Registry

variable (registry : Registry)

/-- Whether a section is shown and what it becomes depends on the keys that it reads. -/
theorem renderSection_congr (agree : first.AgreesOn s.readKeys second) :
    registry.renderSection s first = registry.renderSection s second := by
  have visible : s.isVisible first = s.isVisible second :=
    TemplateSection.isVisible_congr (agree.mono fun key => List.mem_append_left _)
  cases known : s.kind? with
  | none => simp only [renderSection, visible, known]
  | some kind =>
      have rendered : (registry.renderer kind).render s first =
          (registry.renderer kind).render s second :=
        Renderer.render_congr (by rw [known, registry.kind_renderer])
          (agree.mono fun key => List.mem_append_right _)
      simp only [renderSection, visible, known, rendered]

theorem renderSections_congr (sections : List TemplateSection)
    (agree : ∀ s ∈ sections, first.AgreesOn s.readKeys second) :
    registry.renderSections first sections = registry.renderSections second sections := by
  induction sections with
  | nil => rfl
  | cons s rest ih =>
      rw [renderSections, renderSections, registry.renderSection_congr (agree s (by simp)),
        ih fun other mem => agree other (by simp [mem])]

end Registry

end Render

/-- Which keys are missing depends on the values of the fields. -/
theorem missingKeys_congr {fields : List Field}
    (agree : ∀ f ∈ fields, first.value f.key = second.value f.key) :
    missingKeys fields first = missingKeys fields second := by
  have missing : ∀ f ∈ fields, f.isMissing first = f.isMissing second :=
    fun f mem => by rw [Field.isMissing, Field.isMissing, agree f mem]
  refine List.foldl_rel rfl ?_
  rintro f mem found _ rfl
  rw [missing f mem]

/-- Which rules are broken depends on the values of the fields. -/
theorem brokenRules_congr {fields : List Field}
    (agree : ∀ f ∈ fields, first.value f.key = second.value f.key) :
    brokenRules first fields = brokenRules second fields := by
  induction fields with
  | nil => rfl
  | cons f rest ih =>
      have same : f.violations first = f.violations second := by
        simp only [Field.violations, agree f (by simp)]
      rw [brokenRules, brokenRules, same, ih fun other mem => agree other (by simp [mem])]

namespace Template

/-- The keys that a template makes known: those that discovery finds, those of the
conditions of its sections, and the one under which templates of old keep their rows. -/
def readKeys (t : Template) : List String :=
  t.discovery.keys ++ t.sections.flatMap TemplateSection.conditionKeys ++ [Render.legacyRowsKey]

variable {t : Template} {s : TemplateSection}

/-- Every key that a section may look up is one that its template makes known. -/
theorem mem_readKeys_of_mem_section (inside : s ∈ t.sections) {key : String}
    (mem : key ∈ s.readKeys) : key ∈ t.readKeys := by
  simp only [readKeys, List.mem_append, List.mem_flatMap, List.mem_singleton]
  simp only [TemplateSection.readKeys, TemplateSection.shownKeys, List.mem_append] at mem
  rcases mem with condition | (declared | mentioned) | rows
  · exact .inl (.inr ⟨s, inside, condition⟩)
  · obtain ⟨f, field, rfl⟩ := List.mem_map.mp declared
    exact .inl (.inl (mem_keys_discovery_of_declared inside field))
  · exact .inl (.inl (mem_keys_discovery_of_mentioned inside mentioned))
  · by_cases isTable : s.hasRows = true
    · simp only [isTable, if_true, List.mem_cons, List.not_mem_nil, or_false] at rows
      rcases rows with rfl | rfl
      · exact .inl (.inl (mem_keys_discovery_of_hasRows inside isTable))
      · exact .inr rfl
    · simp [isTable] at rows

end Template

/-- A document without the record that it was made from. -/
def Document.withoutData (d : Document) : Document := { d with data := .empty }

namespace Engine

/-- The prepared records agree where the given ones do. -/
theorem prepare_agreesOn (e : Engine) (t : Template) {keys : List String}
    (agree : first.AgreesOn keys second) :
    (e.prepare t first).AgreesOn keys (e.prepare t second) := by
  rw [prepare, prepare]
  split
  · exact agree.withDefaults t.declaredFields
  · exact agree

/-- Two records that agree on the keys that a template makes known make documents that
are the same but for the record kept in them. -/
theorem withoutData_generate_congr (e : Engine) (t : Template)
    (agree : first.AgreesOn t.readKeys second) :
    Document.withoutData <$> e.generate t (.object first.entries) =
      Document.withoutData <$> e.generate t (.object second.entries) := by
  have prepared := e.prepare_agreesOn t agree
  have found : ∀ f ∈ t.discovery.fields,
      (e.prepare t first).value f.key = (e.prepare t second).value f.key := by
    intro f mem
    apply prepared
    simp only [Template.readKeys, List.mem_append]
    exact .inl (.inl (List.mem_map_of_mem mem))
  have rendered : e.renderer.item.registry.render t (e.prepare t first) =
      e.renderer.item.registry.render t (e.prepare t second) := by
    have nodes := e.renderer.item.registry.renderSections_congr t.sections
      fun s inside => prepared.mono fun key => Template.mem_readKeys_of_mem_section inside
    rw [Render.Registry.render, Render.Registry.render, nodes]
  simp only [generate, Value.asOptionalData, Value.asData, Traced.ofExcept_ok, pure_bind, map_bind]
  apply Traced.bind_congr rfl
  rintro _ ⟨⟩
  simp only [map_pure, missingKeys_congr found, brokenRules_congr found, rendered]
  rfl

/-- Generation reads nothing outside the keys that the template makes known. Two
records that agree on them either both fail, for the same cause, or make documents
that are the same but for the record kept in them, after the same events. -/
theorem generate_eq_of_agreesOn (e : Engine) (t : Template) (first second : Record)
    (agree : first.AgreesOn t.readKeys second) :
    (e.generate t (.object first.entries)).result.map Document.withoutData =
        (e.generate t (.object second.entries)).result.map Document.withoutData ∧
      (e.generate t (.object first.entries)).events =
        (e.generate t (.object second.entries)).events := by
  have same := e.withoutData_generate_congr t agree
  constructor
  · rw [← Traced.result_map, same, Traced.result_map]
  · rw [← Traced.events_map Document.withoutData, same, Traced.events_map]

/-- A record may hold a name that looks like a token, and a value for that token: the
text is shown as it is, and the other value is of no account. -/
theorem generate_eq_of_agreesOn_letter :
    let e : Engine := ⟨true, ⟨0, ⟨[], .standard⟩⟩⟩
    let t : Template :=
      { id := "letter", name := "Letter",
        sections :=
          [{ id := "greeting", kindName := "body", content := some "Dear \x7b\x7bname\x7d\x7d",
             condition := some { showIf := some "formal" } },
           { id := "items", kindName := "table",
             columns := some [{ id := "c", key := "item", label := "Item" }] }] }
    let rows : Value := .list [.object [("item", .text "pen")]]
    let first : Record :=
      ⟨[("name", .text "\x7b\x7bother\x7d\x7d"), ("formal", .bool true), ("items", rows),
        ("other", .text "secret")]⟩
    let second : Record :=
      ⟨[("other", .list []), ("items", rows), ("formal", .bool true), ("tableData", .null),
        ("name", .text "\x7b\x7bother\x7d\x7d")]⟩
    first.AgreesOn t.readKeys second ∧
      (e.generate t (.object first.entries)).result.map Document.withoutData =
        (e.generate t (.object second.entries)).result.map Document.withoutData ∧
      (e.generate t (.object first.entries)).result.toOption.map Document.nodes =
        some
          [{ kind := .body, sectionId := "greeting", style := some { size := .int 11 },
             text := some "Dear \x7b\x7bother\x7d\x7d" },
           { kind := .table, sectionId := "items", headerRow := some ["Item"],
             rows := some [["pen"]] }] := by
  intro e t rows first second
  have keys : t.readKeys = ["name", "items", "formal", "tableData"] := by decide +kernel
  have agree : first.AgreesOn t.readKeys second := by
    rw [keys]
    intro key mem
    simp only [List.mem_cons, List.not_mem_nil, or_false] at mem
    rcases mem with rfl | rfl | rfl | rfl <;> rfl
  have same := e.generate_eq_of_agreesOn t first second agree
  exact ⟨agree, same.1, by decide +kernel⟩

end Engine

end Stencil
