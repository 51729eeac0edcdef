/-
# What discovery finds

Discovery takes the candidates of a template in one after the other. A candidate
either finds its key taken or takes it, and no key is given up later, so every
candidate's key is among the keys found: those of the declared fields, those that the
texts of a section refer to, and the identifier of every table with columns.
-/

import Stencil.Field.Discovery

namespace Stencil

namespace Discovery

variable {d : Discovery} {c : Candidate} {cs : List Candidate} {key : String}

theorem mem_keys_of_get?_eq_some {kept : Field} (h : d.get? key = some kept) : key ∈ d.keys := by
  have same : kept.key = key := by simpa [get?] using List.find?_some h
  rw [← same]
  exact List.mem_map_of_mem (List.mem_of_find?_eq_some h)

/-- Taking a candidate in adds its key to the keys found and gives up none. -/
theorem mem_keys_add : key ∈ (d.add c).keys ↔ key ∈ d.keys ∨ key = c.field.key := by
  cases found : d.get? c.field.key with
  | none => simp [add, found, keys]
  | some kept =>
      have taken := mem_keys_of_get?_eq_some found
      have unchanged : (d.add c).keys = d.keys := by
        simp only [add, found]
        split <;> rfl
      rw [unchanged]
      constructor
      · exact Or.inl
      · rintro (mem | rfl)
        · exact mem
        · exact taken

/-- The keys found in the end are those found before and those of all candidates. -/
theorem mem_keys_foldl_add :
    key ∈ (cs.foldl add d).keys ↔ key ∈ d.keys ∨ ∃ c ∈ cs, key = c.field.key := by
  induction cs generalizing d with
  | nil => simp
  | cons c rest ih => simp [ih, mem_keys_add, or_assoc]

theorem add_of_get?_eq_none (new : d.get? c.field.key = none) :
    d.add c = { d with fields := d.fields ++ [c.field] } := by
  rw [add, new]

theorem fields_add_of_get?_eq_some {kept : Field} (taken : d.get? c.field.key = some kept) :
    (d.add c).fields = d.fields := by
  simp only [add, taken]
  split <;> rfl

/-- A candidate is kept for its key unless a field was kept for it before, and changes
nothing for any other key. -/
theorem get?_add :
    (d.add c).get? key = (d.get? key).or (if c.field.key = key then some c.field else none) := by
  cases found : d.get? c.field.key with
  | none =>
      rw [add_of_get?_eq_none found, get?, get?, List.find?_append]
      by_cases same : c.field.key = key <;> simp [same]
  | some kept =>
      rw [get?, fields_add_of_get?_eq_some found, ← get?]
      by_cases same : c.field.key = key
      · simp [← same, found]
      · simp [same]

/-- The field kept for a key in the end is the one kept before, or else that of the first
candidate with the key. -/
theorem get?_foldl_add :
    (cs.foldl add d).get? key =
      (d.get? key).or ((cs.map Candidate.field).find? fun f => f.key == key) := by
  induction cs generalizing d with
  | nil => simp
  | cons c rest ih =>
      rw [List.foldl_cons, ih, get?_add, Option.or_assoc, List.map_cons, List.find?_cons]
      by_cases same : c.field.key = key
      · simp [same]
      · simp [beq_false_of_ne same, same]

/-- What holds at every stage of discovery: no two of the fields share a key, and every
conflict is one with the field kept for its key, over another type. -/
structure IsConsistent (d : Discovery) : Prop where
  get?_of_mem : ∀ f ∈ d.fields, d.get? f.key = some f
  conflict : ∀ c ∈ d.conflicts, d.get? c.key = some c.kept ∧ c.kept.type ≠ c.ignored.type

theorem isConsistent_empty : empty.IsConsistent := ⟨by simp [empty], by simp [empty]⟩

/-- What is kept for a key stays when a candidate is taken in. -/
theorem get?_add_of_get?_eq_some {f : Field} (kept : d.get? key = some f) :
    (d.add c).get? key = some f := by
  rw [get?_add, kept, Option.some_or]

theorem IsConsistent.add (h : d.IsConsistent) (c : Candidate) : (d.add c).IsConsistent := by
  have keeps (f : Field) (mem : f ∈ d.fields) : (d.add c).get? f.key = some f :=
    get?_add_of_get?_eq_some (h.get?_of_mem f mem)
  have stays (conflict : Conflict) (mem : conflict ∈ d.conflicts) :
      (d.add c).get? conflict.key = some conflict.kept ∧
        conflict.kept.type ≠ conflict.ignored.type :=
    ⟨get?_add_of_get?_eq_some (h.conflict conflict mem).1, (h.conflict conflict mem).2⟩
  cases found : d.get? c.field.key with
  | none =>
      have added := add_of_get?_eq_none found
      constructor
      · intro f mem
        have either : f ∈ d.fields ∨ f = c.field := by simpa [added] using mem
        rcases either with before | rfl
        · exact keeps f before
        · rw [get?_add, found, Option.none_or, if_pos rfl]
      · intro conflict mem
        exact stays conflict (by simpa [added] using mem)
  | some kept =>
      constructor
      · intro f mem
        rw [fields_add_of_get?_eq_some found] at mem
        exact keeps f mem
      · intro conflict mem
        -- a mention or a declaration of the same type is dropped without a report
        by_cases silent : c.origin = .mentioned ∨ kept.type = c.field.type
        · exact stays conflict (by simpa [Discovery.add, found, silent] using mem)
        · have either : conflict ∈ d.conflicts ∨ conflict = ⟨kept, c.field, c.origin⟩ := by
            simpa [Discovery.add, found, silent] using mem
          rcases either with before | rfl
          · exact stays conflict before
          · exact ⟨get?_add_of_get?_eq_some found, fun same => silent (.inr same)⟩

theorem IsConsistent.foldl_add (h : d.IsConsistent) : (cs.foldl Discovery.add d).IsConsistent := by
  induction cs generalizing d with
  | nil => exact h
  | cons c rest ih => exact ih (h.add c)

/-- A property of the field that is kept for a key is one of the only field with the key. -/
theorem IsConsistent.exists_mem_iff (h : d.IsConsistent) {p : Field → Bool} :
    (∃ f ∈ d.fields, f.key = key ∧ p f = true) ↔ (d.get? key).any p = true := by
  rw [Option.any_eq_true]
  constructor
  · rintro ⟨f, mem, rfl, holds⟩
    exact ⟨f, h.get?_of_mem f mem, holds⟩
  · rintro ⟨f, kept, holds⟩
    exact ⟨f, List.mem_of_find?_eq_some kept, by simpa using List.find?_some kept, holds⟩

end Discovery

namespace Template

variable {t : Template} {s : TemplateSection} {f : Field} {key : String}

theorem isConsistent_discovery (t : Template) : t.discovery.IsConsistent :=
  Discovery.isConsistent_empty.foldl_add

/-- The fields that a template implies without a declaration: those that its texts refer
to, and those for the rows of its tables. -/
def impliedFields (t : Template) : List Field :=
  t.sections.flatMap (fun s => s.mentionedKeys.map Field.ofMention) ++
    (t.sections.filter TemplateSection.hasRows).map TemplateSection.rowsField

/-- The fields of the candidates are the declared ones and then the implied ones. -/
theorem map_field_candidates (t : Template) :
    t.candidates.map Candidate.field = t.declaredFields ++ t.impliedFields := by
  simp [candidates, declaredFields, impliedFields, List.map_flatMap, Function.comp_def]

/-- What is implied is neither required nor has it a default. -/
theorem not_isRequired_of_mem_impliedFields (mem : f ∈ t.impliedFields) :
    f.isRequired = false ∧ f.defaultValue = none := by
  simp only [impliedFields, List.mem_append, List.mem_flatMap, List.mem_map] at mem
  rcases mem with ⟨_, -, _, -, rfl⟩ | ⟨_, -, rfl⟩ <;> exact ⟨rfl, rfl⟩

/-- The first declaration of a key. -/
def firstDeclared? (t : Template) (key : String) : Option Field :=
  t.declaredFields.find? fun f => f.key == key

/-- The field found for a key is its first declaration, or else an implied field. -/
theorem get?_discovery (t : Template) (key : String) :
    t.discovery.get? key =
      (t.firstDeclared? key).or (t.impliedFields.find? fun f => f.key == key) := by
  rw [discovery, Discovery.get?_foldl_add, map_field_candidates, List.find?_append]
  rfl

/-- The field found for a key is required exactly when its first declaration is. -/
theorem any_isRequired_get?_discovery (t : Template) (key : String) :
    (t.discovery.get? key).any Field.isRequired = (t.firstDeclared? key).any Field.isRequired := by
  rw [get?_discovery]
  cases first : t.firstDeclared? key with
  | some f => rfl
  | none =>
      rw [Option.none_or]
      cases implied : t.impliedFields.find? fun f => f.key == key with
      | none => rfl
      | some f => exact (not_isRequired_of_mem_impliedFields (List.mem_of_find?_eq_some implied)).1

/-- The keys found in a template are those of its candidates. -/
theorem mem_keys_discovery : key ∈ t.discovery.keys ↔ ∃ c ∈ t.candidates, key = c.field.key := by
  rw [discovery, Discovery.mem_keys_foldl_add]
  simp [Discovery.keys, Discovery.empty]

theorem mem_keys_discovery_of_candidate {c : Candidate} (h : c ∈ t.candidates) :
    c.field.key ∈ t.discovery.keys :=
  mem_keys_discovery.mpr ⟨c, h, rfl⟩

/-- The key of a declared field is found. -/
theorem mem_keys_discovery_of_declared (section_mem : s ∈ t.sections) (mem : f ∈ s.declared) :
    f.key ∈ t.discovery.keys := by
  have candidate : (⟨f, .inSection s.id⟩ : Candidate) ∈ t.candidates := by
    simp only [candidates, List.mem_append, List.mem_flatMap, List.mem_map]
    exact .inl (.inl (.inr ⟨s, section_mem, f, mem, rfl⟩))
  exact mem_keys_discovery_of_candidate candidate

/-- A key that a text of a section refers to is found. -/
theorem mem_keys_discovery_of_mentioned (section_mem : s ∈ t.sections)
    (mem : key ∈ s.mentionedKeys) : key ∈ t.discovery.keys := by
  have candidate : (⟨.ofMention key, .mentioned⟩ : Candidate) ∈ t.candidates := by
    simp only [candidates, List.mem_append, List.mem_flatMap, List.mem_map]
    exact .inl (.inr ⟨s, section_mem, key, mem, rfl⟩)
  exact mem_keys_discovery_of_candidate candidate

/-- The identifier of a table with columns is found. -/
theorem mem_keys_discovery_of_hasRows (section_mem : s ∈ t.sections) (rows : s.hasRows = true) :
    s.id ∈ t.discovery.keys := by
  have candidate : (⟨s.rowsField, .table s.id⟩ : Candidate) ∈ t.candidates := by
    simp only [candidates, List.mem_append, List.mem_map, List.mem_filter]
    exact .inr ⟨s, ⟨section_mem, rows⟩, rfl⟩
  exact mem_keys_discovery_of_candidate candidate

end Template

end Stencil
