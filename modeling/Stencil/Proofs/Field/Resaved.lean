/-
# Saving the fields that were found

The fields that discovery finds can be saved as the template's own ones. Discovery then finds
the same fields again: what was implied by a text or a table is declared now, and every later
declaration of a key meets the same field as before. The template's own declarations are in no
conflict any more, and all other conflicts stay.
-/

import Stencil.Proofs.Field.FirstWins

namespace Stencil

/-- Whether something was declared by a section, or stands for the rows of one. -/
def Origin.isSection : Origin → Bool
  | .inSection _ | .table _ => true
  | .template | .mentioned => false

namespace Candidate

variable {c : Candidate} {kept : Field} {conflict : Conflict}

/-- No candidate is in conflict with itself. -/
theorem conflict?_self : c.conflict? c.field = none := by
  simp [conflict?]

/-- A conflict has the origin of its candidate, which is no mention. -/
theorem origin_of_conflict? (found : c.conflict? kept = some conflict) :
    conflict.origin = c.origin ∧ c.origin ≠ .mentioned := by
  by_cases silent : c.origin = .mentioned ∨ kept.type = c.field.type
  · simp [conflict?, silent] at found
  · simp only [conflict?, silent, if_false, Option.some.injEq] at found
    exact ⟨found ▸ rfl, fun mention => silent (.inl mention)⟩

end Candidate

namespace Discovery

variable {d : Discovery} {c : Candidate} {cs : List Candidate}

/-- What is kept for the key of a candidate is settled once it is taken in. -/
theorem get?_add_self :
    (d.add c).get? c.field.key = some ((d.get? c.field.key).getD c.field) := by
  rw [get?_add, if_pos rfl]
  cases d.get? c.field.key <;> rfl

/-- A candidate conflicts with what is kept for its key, before it is taken in or after. -/
theorem bind_conflict?_add :
    ((d.add c).get? c.field.key).bind c.conflict? = (d.get? c.field.key).bind c.conflict? := by
  rw [get?_add_self]
  cases d.get? c.field.key with
  | none => exact c.conflict?_self
  | some kept => rfl

/-- The conflicts are those of the candidates with the fields that are kept in the end. -/
theorem conflicts_foldl_add :
    (cs.foldl add d).conflicts =
      d.conflicts ++
        cs.filterMap fun c => ((cs.foldl add d).get? c.field.key).bind c.conflict? := by
  induction cs generalizing d with
  | nil => simp
  | cons c rest ih =>
      have settled : (rest.foldl add (d.add c)).get? c.field.key = (d.add c).get? c.field.key := by
        rw [get?_foldl_add, get?_add_self, Option.some_or]
      rw [List.foldl_cons, ih, conflicts_add, List.filterMap_cons, settled, bind_conflict?_add]
      cases (d.get? c.field.key).bind c.conflict? <;> simp

theorem exists_of_mem_keys {key : String} (taken : key ∈ d.keys) :
    ∃ kept, d.get? key = some kept := by
  rw [← Option.ne_none_iff_exists', Ne, get?_eq_none_iff, not_not]
  exact taken

/-- Candidates whose keys are taken add no field. -/
theorem fields_foldl_add_of_taken (taken : ∀ c ∈ cs, c.field.key ∈ d.keys) :
    (cs.foldl add d).fields = d.fields := by
  induction cs generalizing d with
  | nil => rfl
  | cons c rest ih =>
      obtain ⟨kept, found⟩ := exists_of_mem_keys (taken c List.mem_cons_self)
      have same : (d.add c).fields = d.fields := fields_add_of_get?_eq_some found
      rw [List.foldl_cons, ih, same]
      intro other mem
      rw [keys, same]
      exact taken other (List.mem_cons_of_mem c mem)

/-- Fields with new keys, no two of them the same, are all kept. -/
theorem foldl_add_of_nodup {fields : List Field} {origin : Origin}
    (nodup : (d.keys ++ fields.map Field.key).Nodup) :
    (fields.map (⟨·, origin⟩)).foldl add d = { d with fields := d.fields ++ fields } := by
  induction fields generalizing d with
  | nil => simp
  | cons f rest ih =>
      have new : d.get? f.key = none := by
        rw [get?_eq_none_iff]
        intro taken
        exact (List.nodup_append.mp nodup).2.2 f.key taken f.key (by simp) rfl
      have added : d.add ⟨f, origin⟩ = { d with fields := d.fields ++ [f] } :=
        add_of_get?_eq_none new
      rw [List.map_cons, List.foldl_cons, added, ih]
      · simp
      · simpa [keys] using nodup

end Discovery

namespace Template

variable {t : Template}

/-- The candidates of a template that are not its own fields. -/
def laterCandidates (t : Template) : List Candidate :=
  t.sections.flatMap (fun s => s.declared.map fun field => ⟨field, .inSection s.id⟩) ++
  t.sections.flatMap (fun s => s.mentionedKeys.map fun key => ⟨.ofMention key, .mentioned⟩) ++
  (t.sections.filter TemplateSection.hasRows).map fun s => ⟨s.rowsField, .table s.id⟩

theorem candidates_eq (t : Template) :
    t.candidates = t.fields.map (⟨·, .template⟩) ++ t.laterCandidates := by
  simp [candidates, laterCandidates]

theorem origin_ne_of_mem_laterCandidates {c : Candidate} (mem : c ∈ t.laterCandidates) :
    c.origin ≠ .template := by
  simp only [laterCandidates, List.mem_append, List.mem_flatMap, List.mem_map] at mem
  rcases mem with (⟨_, -, _, -, rfl⟩ | ⟨_, -, _, -, rfl⟩) | ⟨_, -, rfl⟩ <;> simp

/-- A template with other fields of its own. -/
def withFields (t : Template) (fields : List Field) : Template := { t with fields := fields }

/-- With the fields that were found as its own, a template goes on where those end. -/
theorem discovery_withFields_discovered (t : Template) :
    (t.withFields t.discovery.fields).discovery =
      t.laterCandidates.foldl Discovery.add ⟨t.discovery.fields, []⟩ := by
  have own : (t.discovery.fields.map (⟨·, .template⟩)).foldl Discovery.add .empty =
      ⟨t.discovery.fields, []⟩ :=
    Discovery.foldl_add_of_nodup t.nodup_keys_discovery
  rw [discovery, candidates_eq, List.foldl_append]
  exact congrArg (t.laterCandidates.foldl Discovery.add) own

/-- No later candidate adds a field to those that were found. -/
theorem fields_discovery_withFields_discovered (t : Template) :
    (t.withFields t.discovery.fields).discovery.fields = t.discovery.fields := by
  rw [discovery_withFields_discovered]
  apply Discovery.fields_foldl_add_of_taken
  intro c later
  exact mem_keys_discovery_of_candidate (by simp [candidates_eq, later])

/-- The later candidates are in conflict with the fields that were found. -/
theorem conflicts_discovery_withFields_discovered (t : Template) :
    (t.withFields t.discovery.fields).discovery.conflicts =
      t.laterCandidates.filterMap fun c =>
        (t.discovery.get? c.field.key).bind c.conflict? := by
  have kept (key : String) :
      (t.laterCandidates.foldl Discovery.add ⟨t.discovery.fields, []⟩).get? key =
        t.discovery.get? key := by
    rw [← discovery_withFields_discovered, Discovery.get?, fields_discovery_withFields_discovered]
    rfl
  rw [discovery_withFields_discovered, Discovery.conflicts_foldl_add, List.nil_append]
  simp only [kept]

/-- The conflicts whose origin is a section or a table are those of the later candidates. -/
theorem filter_isSection_conflicts (t : Template) :
    t.discovery.conflicts.filter (·.origin.isSection) =
      t.laterCandidates.filterMap fun c =>
        (t.discovery.get? c.field.key).bind c.conflict? := by
  have conflicts : t.discovery.conflicts =
      t.candidates.filterMap fun c => (t.discovery.get? c.field.key).bind c.conflict? :=
    Discovery.conflicts_foldl_add
  rw [conflicts, candidates_eq, List.filterMap_append, List.filter_append]
  have own : ((t.fields.map (⟨·, .template⟩)).filterMap fun c : Candidate =>
      (t.discovery.get? c.field.key).bind c.conflict?).filter (·.origin.isSection) = [] := by
    rw [List.filter_eq_nil_iff]
    intro conflict mem
    obtain ⟨c, candidate, found⟩ := List.mem_filterMap.mp mem
    obtain ⟨f, -, rfl⟩ := List.mem_map.mp candidate
    obtain ⟨kept, -, found⟩ := Option.bind_eq_some_iff.mp found
    rw [(Candidate.origin_of_conflict? found).1]
    simp [Origin.isSection]
  rw [own, List.nil_append, List.filter_eq_self]
  intro conflict mem
  obtain ⟨c, candidate, found⟩ := List.mem_filterMap.mp mem
  obtain ⟨kept, -, found⟩ := Option.bind_eq_some_iff.mp found
  obtain ⟨same, mentioned⟩ := Candidate.origin_of_conflict? found
  rw [same]
  have own := origin_ne_of_mem_laterCandidates candidate
  cases origin : c.origin with
  | template => exact absurd origin own
  | mentioned => exact absurd origin mentioned
  | inSection id => rfl
  | table id => rfl

/-- Saving the fields that were found as the template's own ones is stable: discovery finds the
same fields in the same order, and its conflicts are those of before whose origin is a section
or a table. -/
theorem discover_withFields_discovered (t : Template) :
    ∃ d again, t.discover.result = .ok d ∧
      (t.withFields d.fields).discover.result = .ok again ∧
      again.fields = d.fields ∧
      again.conflicts = d.conflicts.filter (·.origin.isSection) := by
  refine ⟨t.discovery, (t.withFields t.discovery.fields).discovery, rfl, rfl, ?_, ?_⟩
  · exact t.fields_discovery_withFields_discovered
  · rw [conflicts_discovery_withFields_discovered, filter_isSection_conflicts]

end Template

end Stencil
