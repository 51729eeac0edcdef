/-
# Which keys are missing

The keys that are reported as missing are those of the required fields without a value,
at their first places and so each of them once.
-/

import Stencil.Field.Required
import Stencil.Proofs.Placeholder.Substitution

namespace Stencil

variable {fields : List Field} {data : Record} {key : String}

theorem missingKeys_eq_firsts (fields : List Field) (data : Record) :
    missingKeys fields data =
      Placeholder.firsts ((fields.filter (·.isMissing data)).map Field.key) := by
  rw [missingKeys, Placeholder.firsts, List.foldl_map, List.foldl_filter]
  congr 1
  funext missing f
  cases f.isMissing data <;> cases missing.contains f.key <;> rfl

theorem nodup_missingKeys (fields : List Field) (data : Record) :
    (missingKeys fields data).Nodup := by
  rw [missingKeys_eq_firsts]
  exact Placeholder.nodup_firsts _

/-- A key is missing exactly when it has no value and one of its fields is required. -/
theorem mem_missingKeys :
    key ∈ missingKeys fields data ↔
      (data.value key).isPresent = false ∧ ∃ f ∈ fields, f.key = key ∧ f.isRequired = true := by
  rw [missingKeys_eq_firsts, Placeholder.mem_firsts, List.mem_map]
  constructor
  · rintro ⟨f, mem, rfl⟩
    obtain ⟨inside, missing⟩ := List.mem_filter.mp mem
    simp only [Field.isMissing, Bool.and_eq_true, Bool.not_eq_true'] at missing
    exact ⟨missing.2, f, inside, rfl, missing.1⟩
  · rintro ⟨absent, f, inside, rfl, required⟩
    exact ⟨f, List.mem_filter.mpr ⟨inside, by simp [Field.isMissing, required, absent]⟩, rfl⟩

end Stencil
