/-
# The shape of a node

Whoever draws a document goes by the kind of a node and reads the attributes that nodes of this
kind have. The kind alone says which ones these are, but for the texts of detail sections and the
titles of tables, which are there unless they are empty. Every line says its text out in full,
and only a signature has lines to fill in.
-/

import Stencil.Proofs.Render.Order

namespace Stencil.Render

/-- An attribute for a text, left out for the empty one. -/
def unlessEmpty (name text : String) : List (String × Value) :=
  if text = "" then [] else [(name, .text text)]

/-- The document of a list of lines, each with its label and value apart and joined. Only where
blanks are allowed a line may be one. -/
def AreLines (allowsBlank : Bool) (v : Value) : Prop :=
  ∃ lines, v = .list lines ∧ ∀ line ∈ lines, ∃ label value isBlank,
    line = .object
      [("label", .text label), ("value", .text value), ("text", .text (label ++ ": " ++ value)),
       ("blank", .bool isBlank)] ∧
    (isBlank = true → allowsBlank = true)

/-- The attributes of a node of a kind, besides its kind and its section, in the order in which
they are written. The texts are those that the section becomes with the record. -/
def HasShape (data : Record) (s : TemplateSection) (attributes : List (String × Value)) :
    SectionKind → Prop
  | .header | .body | .footer =>
    ∃ text style, Placeholder.substituteOptional s.content data = .ok text ∧
      attributes = [("resolvedText", .text text), ("styleHints", Style.toValue style)]
  | .detail =>
    ∃ title text style lines, Placeholder.substituteOptional s.title data = .ok title ∧
      Placeholder.substituteOptional s.content data = .ok text ∧ AreLines false lines ∧
      attributes = unlessEmpty "resolvedText" text ++ unlessEmpty "title" title ++
        [("styleHints", Style.toValue style), ("fieldLines", lines)]
  | .table =>
    ∃ title, ∃ rows : List (List String),
      Placeholder.substituteOptional s.title data = .ok title ∧
      attributes = unlessEmpty "title" title ++
        [("headerRow", textsValue (s.columnList.map Column.label)),
         ("rows", .list (rows.map textsValue))]
  | .separator => ∃ divider, attributes = [("divider", .text divider)]
  | .signature =>
    ∃ heading lines, heading ≠ "" ∧ AreLines true lines ∧
      attributes =
        [("title", .text heading), ("fieldLines", lines), ("signatureLine", .bool true)]

variable {data : Record} {s : TemplateSection} {fields : List Field}

theorem areLines_map {allowsBlank : Bool} {lines : List FieldLine}
    (allowed : ∀ line ∈ lines, line.isBlank = true → allowsBlank = true) :
    AreLines allowsBlank (.list (lines.map FieldLine.toValue)) := by
  refine ⟨_, rfl, ?_⟩
  rw [List.forall_mem_map]
  intro line mem
  exact ⟨line.label, line.value, line.isBlank, rfl, allowed line mem⟩

/-- No line of a detail section is a blank. -/
theorem isBlank_of_detailLines {lines : List FieldLine}
    (done : detailLines fields data = .ok lines) : ∀ line ∈ lines, line.isBlank = false := by
  rw [eq_of_detailLines done]
  intro line mem
  obtain ⟨f, -, made⟩ := List.mem_filterMap.mp mem
  obtain ⟨text, -, rfl⟩ := Option.map_eq_some_iff.mp made
  rfl

theorem nonEmpty?_getD_ne {text other : String} (nonempty : other ≠ "") :
    (nonEmpty? text).getD other ≠ "" := by
  by_cases empty : text = "" <;> simp [nonEmpty?, empty, nonempty]

theorem presentEntries_cons_nonEmpty? (name text : String) (rest : List (String × Option Value)) :
    presentEntries ((name, (nonEmpty? text).map .text) :: rest) =
      unlessEmpty name text ++ presentEntries rest := by
  by_cases empty : text = "" <;> simp [presentEntries, nonEmpty?, unlessEmpty, empty]

/-- What a renderer yields is a node with the shape of its kind. -/
theorem Renderer.Yields.hasShape {r : Renderer} {node : Node}
    (yields : r.Yields data s (some node)) :
    node.kind = r.kind ∧ ∃ attributes, node.toValue =
        .object (("kind", .text node.kind.name) :: ("sectionId", .text s.id) :: attributes) ∧
      HasShape data s attributes r.kind := by
  cases r with
  | header size | body size | footer size =>
      obtain ⟨text, content, made⟩ := yields
      obtain rfl := Option.some.inj made
      exact ⟨rfl, _, rfl, text, _, content, rfl⟩
  | detail size =>
      obtain ⟨lines, title, text, filled, headed, content, made⟩ := yields
      obtain rfl := Option.some.inj made
      have marked : ∀ line ∈ lines, line.isBlank = true → false = true := by
        intro line mem blank
        rw [isBlank_of_detailLines filled line mem] at blank
        exact blank
      let style := Style.mergeOptional { size, weight := "bold" } s.style
      refine ⟨rfl, _, ?_, title, text, style, _, headed, content, areLines_map marked, rfl⟩
      show Value.object (_ :: _ :: presentEntries (("resolvedText", (nonEmpty? text).map .text) ::
        ("title", (nonEmpty? title).map .text) :: _)) = _
      rw [presentEntries_cons_nonEmpty?, presentEntries_cons_nonEmpty?, ← List.append_assoc]
      rfl
  | separator divider =>
      obtain rfl := Option.some.inj yields
      exact ⟨rfl, _, rfl, divider, rfl⟩
  | table readsLegacyRows =>
      rcases yields with ⟨-, ⟨⟩⟩ | ⟨-, title, rows, headed, -, made⟩
      obtain rfl := Option.some.inj made
      refine ⟨rfl, _, ?_, title, rows, headed, rfl⟩
      show Value.object (_ :: _ ::
        presentEntries (("title", (nonEmpty? title).map .text) :: _)) = _
      rw [presentEntries_cons_nonEmpty?]
      rfl
  | signature blank =>
      obtain ⟨lines, title, -, -, made⟩ := yields
      obtain rfl := Option.some.inj made
      exact ⟨rfl, _, rfl, _, _, nonEmpty?_getD_ne (by decide), areLines_map fun _ _ _ => rfl, rfl⟩

namespace Registry

variable {registry : Registry}

/-- A section that becomes a node is of a known kind, and the renderer of this kind yields the
node. -/
theorem yields_of_renderSection {node : Node}
    (done : (registry.renderSection s data).result = .ok (some node)) :
    ∃ kind, s.kind? = some kind ∧ (registry.renderer kind).Yields data s (some node) := by
  by_cases visible : s.isVisible data = true
  · rw [renderSection, if_pos visible] at done
    cases known : s.kind? with
    | none =>
        rw [known] at done
        cases done
    | some kind =>
        rw [known] at done
        exact ⟨kind, rfl, Renderer.yields_of_render done⟩
  · rw [renderSection, if_neg visible] at done
    cases done

/-- The kind of a node fixes its shape. Whatever the renderers are configured to, each node of a
rendered template is that of one of its sections, has the kind of the section, and its document
has, besides the kind and the section, exactly the attributes of nodes of this kind. -/
theorem hasShape_of_render (registry : Registry) (t : Template) (data : Record) {nodes : List Node}
    (rendered : (registry.render t data).result = .ok nodes) :
    ∀ node ∈ nodes, ∃ s ∈ t.sections, s.kind? = some node.kind ∧
      ∃ attributes, node.toValue =
          .object (("kind", .text node.kind.name) :: ("sectionId", .text s.id) :: attributes) ∧
        HasShape data s attributes node.kind := by
  rw [result_render] at rendered
  obtain ⟨rfl, each⟩ := eq_filterMap_of_renderSections rendered
  intro node mem
  obtain ⟨s, inside, becomes⟩ := List.mem_filterMap.mp mem
  obtain ⟨kind, known, yields⟩ := yields_of_renderSection (becomes ▸ each s inside)
  obtain ⟨same, shape⟩ := yields.hasShape
  rw [registry.kind_renderer] at same shape
  subst same
  exact ⟨s, inside, known, shape⟩

/-- The name is the empty text everywhere: the header keeps its empty text, the section and the
table go without a title, the section shows a default text and no line, and the signature has a
title of its own and a blank. -/
theorem hasShape_of_render_nameless :
    let data : Record := ⟨[("name", .text "")]⟩
    let name : Field := { id := "n", key := "name", label := "Name" }
    let column : Column := { id := "c", key := "c", label := "C" }
    let heading := some "\x7b\x7bname\x7d\x7d"
    let t : Template :=
      { id := "t", name := "n",
        sections :=
          [{ id := "h", kindName := "header", content := heading },
           { id := "d", kindName := "section", title := heading, fields := some [name],
             content := some "\x7b\x7bname.nobody\x7d\x7d" },
           { id := "l", kindName := "table", title := heading, columns := some [column] },
           { id := "-", kindName := "separator", title := heading },
           { id := "s", kindName := "signature", title := heading, fields := some [name] }] }
    let names (node : Node) := (node.toValue.record?.map Record.entries).map (·.map Prod.fst)
    let expected :=
      [some ["kind", "sectionId", "resolvedText", "styleHints"],
       some ["kind", "sectionId", "resolvedText", "styleHints", "fieldLines"],
       some ["kind", "sectionId", "headerRow", "rows"],
       some ["kind", "sectionId", "divider"],
       some ["kind", "sectionId", "title", "fieldLines", "signatureLine"]]
    ∃ nodes, (standard.render t data).result = .ok nodes ∧ nodes.map names = expected ∧
      ∀ node ∈ nodes, ∃ s ∈ t.sections, s.kind? = some node.kind ∧
        ∃ attributes, node.toValue =
            .object (("kind", .text node.kind.name) :: ("sectionId", .text s.id) :: attributes) ∧
          HasShape data s attributes node.kind := by
  intro data name column heading t names expected
  have computed :
      (standard.render t data).result.toOption.map (fun nodes => nodes.map names) =
        some expected := by decide
  obtain ⟨nodes, rendered, named⟩ := eq_ok_of_toOption_map computed
  exact ⟨nodes, rendered, named, hasShape_of_render standard t data rendered⟩

end Registry

end Stencil.Render
