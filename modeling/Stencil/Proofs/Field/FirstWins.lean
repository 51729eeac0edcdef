/-
# First come, first kept

Discovery comes to reading the list of all candidates once, each with an eye on those before
it. A candidate is kept when none before it has its key. One that is not kept is reported when
it was declared, or stands for the rows of a table, and is of another type than the first
candidate with its key. A field that a text merely refers to wins its key like any other, but
is never reported.
-/

import Mathlib.Data.List.Infix
import Mathlib.Data.List.Nodup
import Stencil.Proofs.Field.Discovery

namespace Stencil

variable {α : Type}

/-- The members of a list, each with those before it. -/
def withEarlier (xs : List α) : List (List α × α) := xs.inits.zip xs

theorem withEarlier_cons (x : α) (xs : List α) :
    withEarlier (x :: xs) = ([], x) :: (withEarlier xs).map (Prod.map (x :: ·) id) := by
  simp [withEarlier, List.zip_map_left]

/-- The last member has all others before it. -/
theorem withEarlier_append_singleton (xs : List α) (x : α) :
    withEarlier (xs ++ [x]) = withEarlier xs ++ [(xs, x)] := by
  induction xs with
  | nil => rfl
  | cons y ys ih => simp [withEarlier_cons, ih]

namespace Candidate

variable {c : Candidate} {earlier : List Candidate}

/-- Whether no earlier candidate has the key of a candidate. -/
def isFirst (c : Candidate) (earlier : List Candidate) : Bool :=
  earlier.all fun other => other.field.key != c.field.key

/-- The first of earlier candidates with the key of a candidate. -/
def rival? (c : Candidate) (earlier : List Candidate) : Option Field :=
  (earlier.map Candidate.field).find? fun f => f.key == c.field.key

/-- The conflict of a candidate with the field that is kept for its key. A field that is only
mentioned is in no conflict, and neither is one of the same type. -/
def conflict? (c : Candidate) (kept : Field) : Option Conflict :=
  if c.origin = .mentioned ∨ kept.type = c.field.type then none
  else some ⟨kept, c.field, c.origin⟩

theorem isNone_rival? : (c.rival? earlier).isNone = c.isFirst earlier := by
  induction earlier with
  | nil => rfl
  | cons other rest ih =>
      rw [isFirst, List.all_cons, ← isFirst, ← ih, rival?, List.map_cons, List.find?_cons]
      cases same : other.field.key == c.field.key <;> simp [rival?, bne, same]

end Candidate

namespace Discovery

variable {d : Discovery} {c : Candidate} {cs : List Candidate} {key : String}

theorem get?_eq_none_iff : d.get? key = none ↔ key ∉ d.keys := by
  simp [get?, keys]

/-- A candidate whose key is new is the next field. -/
theorem fields_add :
    (d.add c).fields = d.fields ++ if (d.get? c.field.key).isNone then [c.field] else [] := by
  cases found : d.get? c.field.key with
  | none => simp [add_of_get?_eq_none found]
  | some kept => simp [fields_add_of_get?_eq_some found]

/-- A candidate whose key is taken is the next conflict, if it is in one at all. -/
theorem conflicts_add :
    (d.add c).conflicts = d.conflicts ++ ((d.get? c.field.key).bind c.conflict?).toList := by
  cases found : d.get? c.field.key with
  | none => simp [add_of_get?_eq_none found]
  | some kept =>
      by_cases silent : c.origin = .mentioned ∨ kept.type = c.field.type <;>
        simp [add, found, Candidate.conflict?, silent]

theorem nodup_keys_add (nodup : d.keys.Nodup) : (d.add c).keys.Nodup := by
  cases found : d.get? c.field.key with
  | some kept => rwa [keys, fields_add_of_get?_eq_some found]
  | none =>
      have added : (d.add c).keys = d.keys ++ [c.field.key] := by
        simp [keys, add_of_get?_eq_none found]
      rw [added, ← List.concat_eq_append, List.nodup_concat]
      exact ⟨get?_eq_none_iff.mp found, nodup⟩

/-- No two of the fields that are found share a key. -/
theorem nodup_keys_foldl_add (nodup : d.keys.Nodup) : (cs.foldl add d).keys.Nodup := by
  induction cs generalizing d with
  | nil => exact nodup
  | cons c rest ih => exact ih (nodup_keys_add nodup)

/-- What is kept for the key of a candidate when its turn comes is its rival. -/
theorem get?_foldl_add_empty : (cs.foldl add empty).get? c.field.key = c.rival? cs := by
  rw [get?_foldl_add]
  rfl

/-- The fields found are those of the candidates that are the first with their key. -/
theorem fields_foldl_add_empty (cs : List Candidate) :
    (cs.foldl add empty).fields =
      ((withEarlier cs).filter fun (earlier, c) => c.isFirst earlier).map
        fun (_, c) => c.field := by
  induction cs using List.reverseRecOn with
  | nil => rfl
  | append_singleton earlier c ih =>
      rw [List.foldl_append, List.foldl_cons, List.foldl_nil, fields_add, ih,
        get?_foldl_add_empty, Candidate.isNone_rival?, withEarlier_append_singleton]
      by_cases first : c.isFirst earlier = true <;> simp [first]

/-- The conflicts are those of the candidates with their rivals. -/
theorem conflicts_foldl_add_empty (cs : List Candidate) :
    (cs.foldl add empty).conflicts =
      (withEarlier cs).filterMap fun (earlier, c) => (c.rival? earlier).bind c.conflict? := by
  induction cs using List.reverseRecOn with
  | nil => rfl
  | append_singleton earlier c ih =>
      rw [List.foldl_append, List.foldl_cons, List.foldl_nil, conflicts_add, ih,
        get?_foldl_add_empty, withEarlier_append_singleton, List.filterMap_append]
      cases conflict : (c.rival? earlier).bind c.conflict? <;> simp [conflict]

end Discovery

namespace Template

theorem nodup_keys_discovery (t : Template) : t.discovery.keys.Nodup :=
  Discovery.nodup_keys_foldl_add List.nodup_nil

/-- Discovery finds the first candidate of each key, in the order of the candidates, and
reports every later one that was declared, or stands for the rows of a table, and is of another
type than the first: again in order, with the first as the one that is kept, with itself as the
one that is ignored, and with its own origin. -/
theorem discover_first_wins (t : Template) :
    ∃ d, t.discover.result = .ok d ∧
      d.fields = ((withEarlier t.candidates).filter fun (earlier, c) => c.isFirst earlier).map
        (fun (_, c) => c.field) ∧
      d.keys.Nodup ∧ (∀ c ∈ t.candidates, c.field.key ∈ d.keys) ∧
      d.conflicts = (withEarlier t.candidates).filterMap fun (earlier, c) =>
        (c.rival? earlier).bind c.conflict? :=
  ⟨t.discovery, rfl, Discovery.fields_foldl_add_empty t.candidates, t.nodup_keys_discovery,
    fun _ => mem_keys_discovery_of_candidate, Discovery.conflicts_foldl_add_empty t.candidates⟩

end Template

end Stencil
