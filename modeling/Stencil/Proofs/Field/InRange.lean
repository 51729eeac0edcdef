/-
# Numbers within their limits

If no limit of a number field is reported for its value, then the value is a number, and it lies
between the limits that are set as far as numbers lie anywhere. A limit is missed only by what
lies strictly on its wrong side. So a number keeps a limit that is not reported exactly if
neither of the two is undefined: an undefined number passes every check, and an undefined limit
lets every number pass.
-/

import Stencil.Proofs.Field.Broken

namespace Stencil

variable {data : Record} {fields : List Field} {f : Field} {v : Value} {rules : FieldRules}
variable {own reported : List Violation}

/-- What is reported of a record has all that is reported of the fields on their own. -/
theorem exists_violations_of_brokenRules (checked : (brokenRules data fields).result = .ok reported)
    (mem : f ∈ fields) : ∃ own, (f.violations data).result = .ok own ∧ own ⊆ reported := by
  induction fields generalizing reported with
  | nil => cases mem
  | cons first rest ih =>
      obtain ⟨own, here, later⟩ := Traced.result_bind_eq_ok.mp checked
      obtain ⟨others, there, whole⟩ := Traced.result_bind_eq_ok.mp later
      obtain rfl : own ++ others = reported := Except.ok.inj whole
      rcases List.mem_cons.mp mem with rfl | inside
      · exact ⟨own, here, List.subset_append_left _ _⟩
      · obtain ⟨found, listed, within⟩ := ih there inside
        exact ⟨found, listed, List.subset_append_of_subset_right _ within⟩

namespace Field

theorem mem_reportOn_of_breaks {rule : Rule} {listed : List Rule} (mem : rule ∈ listed)
    (broken : f.Breaks v rule) : ⟨f.key, rule, f.complaint v rule⟩ ∈ f.reportOn v listed :=
  List.mem_map.mpr ⟨rule, List.mem_filter.mpr ⟨mem, by simpa using broken⟩, rfl⟩

/-- What is reported of a present value has all that is reported of its limits. -/
theorem exists_rangeViolations_of_violations (present : (data.value f.key).isPresent = true)
    (checked : (f.violations data).result = .ok own) :
    ∃ range, f.rangeViolations (data.value f.key) = .ok range ∧ range ⊆ own := by
  rw [violations, if_pos present] at checked
  obtain ⟨range, first, rest⟩ := Traced.result_bind_eq_ok.mp checked
  obtain ⟨pattern, -, rest⟩ := Traced.result_bind_eq_ok.mp rest
  obtain ⟨options, -, whole⟩ := Traced.result_bind_eq_ok.mp rest
  obtain rfl : range ++ pattern ++ options = own := Except.ok.inj whole
  refine ⟨range, first, ?_⟩
  rw [List.append_assoc]
  exact List.subset_append_left _ _

/-- The limits that are not reported are not missed. -/
theorem not_breaks_of_brokenRules (checked : (brokenRules data fields).result = .ok reported)
    (mem : f ∈ fields) (type : f.type = .number) (given : f.rules = some rules)
    (limits : rules.hasLimits = true) (present : (data.value f.key).isPresent = true)
    {rule : Rule} (limit : rule ∈ [Rule.number, .min, .max])
    (silent : ∀ violation ∈ reported, violation.key = f.key → violation.rule ≠ rule) :
    ¬ f.Breaks (data.value f.key) rule := by
  intro broken
  obtain ⟨own, checkedOwn, ownReported⟩ := exists_violations_of_brokenRules checked mem
  obtain ⟨range, checkedRange, rangeOwn⟩ := exists_rangeViolations_of_violations present checkedOwn
  obtain rfl := Except.ok.inj
    (checkedRange.symm.trans (rangeViolations_of_number given limits type present))
  exact silent _ (ownReported (rangeOwn (mem_reportOn_of_breaks limit broken))) rfl rfl

/-- If the check of a record reports neither that the value of a number field with limits is no
number nor that it misses a limit, then the value is a number, and it lies at or above the least
limit and at or below the greatest one, where they are set, exactly if neither the number nor
the limit is undefined. -/
theorem number_keeps_limits_iff (checked : (brokenRules data fields).result = .ok reported)
    (mem : f ∈ fields) (type : f.type = .number) (given : f.rules = some rules)
    (limited : rules.min ≠ none ∨ rules.max ≠ none)
    (present : (data.value f.key).isPresent = true)
    (silent : ∀ violation ∈ reported, violation.key = f.key →
      violation.rule ∉ [Rule.number, .min, .max]) :
    ∃ n, (data.value f.key).number? = some n ∧
      (∀ limit, rules.min = some limit →
        ((Number.float limit).IsAtMost n ↔ limit ≠ .nan ∧ n ≠ .float .nan)) ∧
      (∀ limit, rules.max = some limit →
        (n.IsAtMost (.float limit) ↔ n ≠ .float .nan ∧ limit ≠ .nan)) := by
  have limits : rules.hasLimits = true := by
    simpa [FieldRules.hasLimits, Option.isSome_iff_ne_none] using limited
  have kept {rule : Rule} (limit : rule ∈ [Rule.number, .min, .max]) :
      ¬ f.Breaks (data.value f.key) rule :=
    not_breaks_of_brokenRules checked mem type given limits present limit
      fun violation inside key same => silent violation inside key (same ▸ limit)
  cases read : (data.value f.key).number? with
  | none =>
      have noNumber := (number?_eq_none_iff present).mp read
      exact absurd (.number given limited type noNumber) (kept (by simp))
  | some n =>
      have measured : f.Measures (data.value f.key) n := .number type read
      refine ⟨n, rfl, fun limit set => ?_, fun limit set => ?_⟩
      · have notBelow : ¬ n.IsBelow (.float limit) := fun below =>
          kept (by simp) (.min given set measured below)
        simp [Number.isAtMost_iff, notBelow]
      · have notAbove : ¬ (Number.float limit).IsBelow n := fun above =>
          kept (by simp) (.max given set measured above)
        simp [Number.isAtMost_iff, notAbove]

/-- The greatest limit is infinite, and the value is an integer beyond all binary numbers that are
finite. It keeps both limits. -/
theorem number_keeps_limits_iff_huge :
    let f : Field :=
      { id := "n", key := "total", label := "Total", type := .number,
        rules := some { min := some (Binary64.ofInt 3), max := some (.infinite false) } }
    let n : Int := Nat.pow 10 400
    let data : Record := ⟨[("total", .int n)]⟩
    (brokenRules data [f]).result = .ok [] ∧
      (Number.float (Binary64.ofInt 3)).IsAtMost (.int n) ∧
      (Number.int n).IsAtMost (.float (.infinite false)) := by
  intro f n data
  have checked : (brokenRules data [f]).result = .ok [] := by decide +kernel
  have defined : Binary64.ofInt 3 ≠ .nan := by decide +kernel
  obtain ⟨number, read, least, greatest⟩ :=
    number_keeps_limits_iff checked (List.mem_singleton_self f) rfl rfl (.inl nofun) rfl
      (List.forall_mem_nil _)
  obtain rfl : Number.int n = number := Option.some.inj read
  exact ⟨checked, (least _ rfl).mpr ⟨defined, nofun⟩, (greatest _ rfl).mpr ⟨nofun, nofun⟩⟩

/-- A text that is read as an undefined number misses no limit, so that nothing is reported, and
it lies between none. -/
theorem brokenRules_passes_undefined :
    let f : Field :=
      { id := "f", key := "k", label := "L", type := .number,
        rules := some { min := some Binary64.zero } }
    let data : Record := ⟨[("k", .text "nan")]⟩
    (brokenRules data [f]).result = .ok [] ∧
      (data.value f.key).number? = some (.float .nan) ∧
      ¬ (Number.float Binary64.zero).IsAtMost (.float .nan) := by
  intro f data
  refine ⟨by decide, by decide, ?_⟩
  simp [Number.isAtMost_iff]

end Field

end Stencil
