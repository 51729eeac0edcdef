/-
# Making a document again from its own record

A document keeps the record that it was made from, with all gaps filled that there are
defaults for. No default finds a gap in that record, so an engine prepares it to itself and
makes the same document from it.
-/

import Stencil.Proofs.Engine.Generation
import Stencil.Proofs.Field.Defaults

namespace Stencil.Engine

variable {e : Engine} {t : Template} {data : Value} {d : Document}

/-- A prepared record is prepared to itself. -/
theorem prepare_prepare (e : Engine) (t : Template) (record : Record) :
    e.prepare t (e.prepare t record) = e.prepare t record := by
  cases fills : e.fillsDefaults with
  | false => simp only [prepare, fills, Bool.false_eq_true, if_false]
  | true => simp only [prepare, fills, if_true, Record.withDefaults_withDefaults]

/-- A prepared record is as good as the one that it was prepared from. -/
theorem generate_prepare (e : Engine) (t : Template) (record : Record) :
    e.generate t (.object (e.prepare t record).entries) =
      e.generate t (.object record.entries) := by
  have again : e.prepare t ⟨(e.prepare t record).entries⟩ = e.prepare t record :=
    prepare_prepare e t record
  simp only [generate, Value.asOptionalData, Value.asData, Traced.ofExcept_ok, pure_bind, again]

/-- A document is made from a record, and any other data that stand for the record are as
good. -/
theorem exists_record_of_generate (made : (e.generate t data).result = .ok d) :
    ∃ record : Record, e.generate t data = e.generate t (.object record.entries) := by
  rw [generate, Traced.result_bind_eq_ok] at made
  obtain ⟨record, read, -⟩ := made
  have itself : (Value.object record.entries).asOptionalData = .ok record := rfl
  rw [Traced.result_ofExcept] at read
  exact ⟨record, by rw [generate, generate, read, itself]⟩

/-- The record of a document makes the same document, after the same events. It makes no
difference whether defaults are filled in, or how often a key is declared: a gap that is left
in the record has no default. -/
theorem generate_data_eq (made : (e.generate t data).result = .ok d) :
    e.generate t (.object d.data.entries) = ⟨(e.generate t data).events, .ok d⟩ := by
  obtain ⟨record, same⟩ := exists_record_of_generate made
  rw [same] at made ⊢
  rw [(makes_of_generate made).data_eq, generate_prepare, ← made]

/-- The name is filled in from its second declaration, after the first one without a default,
and the discount from the first of two; an empty text, a zero and a null that nothing fills
stay as they are. All this is the same the second time. -/
theorem generate_data_eq_quote :
    let e : Engine := ⟨true, 0, [], .standard⟩
    let name : Field := { id := "n", key := "name", label := "Name", isRequired := true }
    let discount : Field :=
      { id := "d", key := "discount", label := "Discount", type := .number,
        defaultValue := some (.int 0) }
    let note : Field :=
      { id := "o", key := "note", label := "Note", defaultValue := some (.text "-") }
    let t : Template :=
      { id := "quote", name := "Quote", fields := [name, discount, note],
        sections :=
          [{ id := "s", kindName := "section",
             fields := some
               [{ name with defaultValue := some (.text "you") },
                { discount with defaultValue := some (.int 5) }, note,
                { id := "m", key := "memo", label := "Memo" }] }] }
    let data : Record := ⟨[("discount", .null), ("note", .text ""), ("memo", .null)]⟩
    let filled : Record :=
      ⟨[("discount", .int 0), ("note", .text ""), ("memo", .null), ("name", .text "you")]⟩
    ∃ d, (e.generate t (.object data.entries)).result = .ok d ∧ d.data = filled ∧
      (e.generate t (.object filled.entries)).result = .ok d := by
  intro e name discount note t data filled
  obtain ⟨d, made⟩ : HasResult (e.generate t (.object data.entries)).result :=
    hasResult_of_isSome (by decide +kernel)
  have kept : d.data = filled := (makes_of_generate made).data_eq
  have again := generate_data_eq made
  rw [kept] at again
  exact ⟨d, made, kept, by rw [again]⟩

end Stencil.Engine
