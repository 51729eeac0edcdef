/-
# What later declarations of a key count for

The first declaration of a key is the one that counts: it alone decides whether the key is
required, and a later one of another type is reported as ignored. The filling in of defaults
is apart from this. It goes through all declarations, so that a default of a later one, even
of an ignored one, fills a gap for which no earlier declaration has a default.
-/

import Stencil.Proofs.Engine.Agreement
import Stencil.Proofs.Field.Defaults

namespace Stencil.Engine

variable {e : Engine} {t : Template} {data : Record} {d other : Document} {key : String}

/-- The keys that a document reports as missing are those without a value whose first
declaration is required. So none is reported exactly when every key whose first declaration
is required has a value, whatever later declarations of the key ask for. -/
theorem generate_missing_iff (made : (e.generate t (.object data.entries)).result = .ok d) :
    (∀ key, key ∈ d.missing ↔
      (d.data.value key = .null ∨ d.data.value key = .text "") ∧
        ∃ first, t.firstDeclared? key = some first ∧ first.isRequired = true) ∧
    (d.missing.isEmpty = true ↔
      ∀ key first, t.firstDeclared? key = some first → first.isRequired = true →
        d.data.value key ≠ .null ∧ d.data.value key ≠ .text "") := by
  have parts := makes_of_generate made
  have missing (key : String) : key ∈ d.missing ↔
      (d.data.value key = .null ∨ d.data.value key = .text "") ∧
        ∃ first, t.firstDeclared? key = some first ∧ first.isRequired = true := by
    rw [parts.mem_missing, Value.isPresent_eq_false_iff, t.any_isRequired_get?_discovery,
      Option.any_eq_true]
  refine ⟨missing, ?_⟩
  rw [List.isEmpty_iff, List.eq_nil_iff_forall_not_mem]
  constructor
  · intro unmissed key first declared required
    rw [← not_or]
    exact fun absent => unmissed key ((missing key).mpr ⟨absent, first, declared, required⟩)
  · rintro held key mem
    obtain ⟨absent, first, declared, required⟩ := (missing key).mp mem
    exact not_or.mpr (held key first declared required) absent

/-- The number is first declared as required and the client as optional, each of them again
the other way round. Without values the number alone is missing. -/
theorem generate_missing_iff_invoice :
    let e : Engine := ⟨true, ⟨0, ⟨[], .standard⟩⟩⟩
    let number : Field := { id := "n", key := "number", label := "Number", isRequired := true }
    let client : Field := { id := "c", key := "client", label := "Client" }
    let t : Template :=
      { id := "invoice", name := "Invoice", fields := [number, client],
        sections :=
          [{ id := "s", kindName := "section",
             fields := some
               [{ number with isRequired := false }, { client with isRequired := true }] }] }
    ∃ d, (e.generate t (.object Record.empty.entries)).result = .ok d ∧ "number" ∈ d.missing ∧
      "client" ∉ d.missing := by
  intro e number client t
  obtain ⟨d, made⟩ : HasResult (e.generate t (.object Record.empty.entries)).result :=
    hasResult_of_isSome (by decide)
  have kept : d.data = .empty := (makes_of_generate made).data_eq
  have missing := (generate_missing_iff made).1
  have absent : d.data.value "number" = .null := by rw [kept]; rfl
  refine ⟨d, made, (missing "number").mpr ⟨.inl absent, number, rfl, rfl⟩, fun mem => ?_⟩
  obtain ⟨-, first, declared, required⟩ := (missing "client").mp mem
  obtain rfl : client = first := Option.some.inj declared
  cases required

/-- A field that is declared as required has no value, and nothing is missing: the key was
declared as optional before. -/
theorem generate_valid_without_required :
    let e : Engine := ⟨true, ⟨0, ⟨[], .standard⟩⟩⟩
    let t : Template :=
      { id := "t", name := "n", fields := [{ id := "a", key := "k", label := "A" }],
        sections :=
          [{ id := "s", kindName := "section",
             fields := some [{ id := "b", key := "k", label := "B", isRequired := true }] }] }
    ∃ d, (e.generate t (.object Record.empty.entries)).result = .ok d ∧ d.missing.isEmpty = true ∧
      ∃ f ∈ t.declaredFields, f.isRequired = true ∧ d.data.value f.key = .null := by
  intro e t
  obtain ⟨d, made⟩ : HasResult (e.generate t (.object Record.empty.entries)).result :=
    hasResult_of_isSome (by decide)
  have parts := makes_of_generate made
  refine ⟨d, made, ?_, _, .tail _ (.head _), rfl, ?_⟩
  · rw [parts.missing_eq, parts.fields_eq, parts.data_eq]
    decide
  · rw [parts.data_eq]
    rfl

/-- With defaults filled in, a key without a value in the given record gets the default of
its first declaration that has one. -/
theorem Makes.get?_data (made : e.Makes t data d) (fills : e.fillsDefaults = true) (key : String) :
    d.data.get? key =
      if (data.value key).isNull = true then
        ((defaultFor? t.declaredFields key).map Scalar.toValue).or (data.get? key)
      else data.get? key := by
  rw [made.data_eq, prepare, if_pos fills, Record.get?_withDefaults]

/-- The default of an ignored declaration has a say exactly where no declaration before it
has a default. Without the defaults of the ignored declarations the record of the document is
the same on every key but those that are null in the given record and whose first declaration
with a default is an ignored one, and there this default is filled in. In particular the
record is the same on every key for which the field that is kept has a default. -/
theorem generate_data_withoutIgnoredDefaults (fills : e.fillsDefaults = true)
    (made : (e.generate t (.object data.entries)).result = .ok d)
    (without : (e.generate t.withoutIgnoredDefaults (.object data.entries)).result = .ok other) :
    ∀ key,
      ((∀ f, data.value key = .null → supplier? t.declaredFields key = some f →
          t.ignores f = false) →
        d.data.get? key = other.data.get? key) ∧
      (∀ f, data.value key = .null → supplier? t.declaredFields key = some f →
        d.data.get? key = f.defaultValue.map Scalar.toValue) ∧
      (∀ kept, t.discovery.get? key = some kept → kept.defaultValue ≠ none →
        d.data.get? key = other.data.get? key) := by
  intro key
  have first := (makes_of_generate made).get?_data fills key
  have second := (makes_of_generate without).get?_data fills key
  have same (heeded : ∀ f, data.value key = .null → supplier? t.declaredFields key = some f →
      t.ignores f = false) : d.data.get? key = other.data.get? key := by
    rw [first, second]
    by_cases gap : (data.value key).isNull = true
    · have null := Value.isNull_iff.mp gap
      rw [Template.defaultFor?_withoutIgnoredDefaults fun f => heeded f null]
    · rw [if_neg gap, if_neg gap]
  refine ⟨same, fun f null supplies => ?_, fun kept found given => same fun f _ supplies => ?_⟩
  · obtain ⟨scalar, given, chosen⟩ := defaultFor?_of_supplier? supplies
    rw [first, if_pos (Value.isNull_iff.mpr null), chosen, given, Option.map_some, Option.some_or]
  · have itself := Template.supplier?_of_get?_discovery found given
    obtain rfl : kept = f := Option.some.inj (itself.symm.trans supplies)
    exact Template.not_ignores_of_get?_discovery found

/-- The kept declaration of the first key has a default and that of the second has none, and
both keys have an ignored declaration with a default. Only the second ignored default is
filled in. -/
theorem generate_data_withoutIgnoredDefaults_slip :
    let e : Engine := ⟨true, ⟨0, ⟨[], .standard⟩⟩⟩
    let name : Field :=
      { id := "n", key := "name", label := "Name", defaultValue := some (.text "-") }
    let pay : Field := { id := "p", key := "pay", label := "Pay" }
    let t : Template :=
      { id := "slip", name := "Slip", fields := [name, pay],
        sections :=
          [{ id := "s", kindName := "section",
             fields := some
               [{ name with type := .number, defaultValue := some (.int 1) },
                { pay with type := .number, defaultValue := some (.int 2) }] }] }
    ∃ d other, (e.generate t (.object Record.empty.entries)).result = .ok d ∧
      (e.generate t.withoutIgnoredDefaults (.object Record.empty.entries)).result = .ok other ∧
      d.data.get? "name" = other.data.get? "name" ∧ d.data.get? "pay" = some (.int 2) := by
  intro e name pay t
  obtain ⟨d, made⟩ : HasResult (e.generate t (.object Record.empty.entries)).result :=
    hasResult_of_isSome (by decide +kernel)
  obtain ⟨other, without⟩ :
      HasResult (e.generate t.withoutIgnoredDefaults (.object Record.empty.entries)).result :=
    hasResult_of_isSome (by decide)
  have agreed := generate_data_withoutIgnoredDefaults rfl made without
  refine ⟨d, other, made, without, (agreed "name").2.2 name ?_ (by simp [name]), ?_⟩
  · decide
  · exact (agreed "pay").2.1 { pay with type := .number, defaultValue := some (.int 2) } rfl rfl

/-- The default of an ignored declaration is in the record: the declaration that is kept has
none. -/
theorem generate_fills_ignored_default :
    let e : Engine := ⟨true, ⟨0, ⟨[], .standard⟩⟩⟩
    let t : Template :=
      { id := "t", name := "n", fields := [{ id := "a", key := "k", label := "A" }],
        sections :=
          [{ id := "s", kindName := "section",
             fields := some
               [{ id := "b", key := "k", label := "B", type := .number,
                  defaultValue := some (.int 5) }] }] }
    ∃ d other, (e.generate t (.object Record.empty.entries)).result = .ok d ∧
      (e.generate t.withoutIgnoredDefaults (.object Record.empty.entries)).result = .ok other ∧
      d.data.get? "k" = some (.int 5) ∧ other.data.get? "k" = none := by
  intro e t
  obtain ⟨d, made⟩ : HasResult (e.generate t (.object Record.empty.entries)).result :=
    hasResult_of_isSome (by decide +kernel)
  obtain ⟨other, without⟩ :
      HasResult (e.generate t.withoutIgnoredDefaults (.object Record.empty.entries)).result :=
    hasResult_of_isSome (by decide)
  refine ⟨d, other, made, without, ?_, ?_⟩
  · rw [(makes_of_generate made).data_eq]
    rfl
  · rw [(makes_of_generate without).data_eq]
    rfl

end Stencil.Engine
