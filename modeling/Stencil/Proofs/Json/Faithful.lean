/-
# Values that survive printing

Two things can get lost when a value is printed and read again: an integer that is too long to
be shown, and an entry whose name stands again later in the object. A value without either is
read as exactly what it was, every number, text and truth value with its type. Binary numbers
survive whatever they are, since those that are not finite are printed by name.
-/

import Stencil.Proofs.Json.RoundTrip
import Stencil.Proofs.Schema.Attribute
import Stencil.Proofs.Value.Numbers

namespace Stencil

namespace Value

/-- The integers in the value can be shown, and no name stands twice in an object. -/
inductive IsFaithful : Value → Prop
  | null : IsFaithful .null
  | bool (b : Bool) : IsFaithful (.bool b)
  | int {i : Int} (shown : isShowableInt i = true) : IsFaithful (.int i)
  | float (x : Binary64) : IsFaithful (.float x)
  | text (s : String) : IsFaithful (.text s)
  | list {items : List Value} (each : ∀ v ∈ items, IsFaithful v) : IsFaithful (.list items)
  | object {entries : List (String × Value)} (distinct : (entries.map Prod.fst).Nodup)
      (each : ∀ entry ∈ entries, IsFaithful entry.2) : IsFaithful (.object entries)

variable {v : Value}

theorem IsFaithful.isShowable (faithful : v.IsFaithful) : v.isShowable = true := by
  induction faithful with
  | int shown => exact shown
  | list each ih => exact areShowable_iff.mpr ih
  | object distinct each ih => exact areEntriesShowable_iff.mpr ih
  | _ => rfl

theorem IsFaithful.reread (faithful : v.IsFaithful) : v.reread .float = v := by
  induction faithful with
  | list each ih =>
      rw [Value.reread, rereadItems_eq_map, List.map_congr_left ih, List.map_id']
  | @object entries distinct each ih =>
      have same : (entries.map fun entry => (entry.1, entry.2.reread .float)) = entries := by
        refine (List.map_congr_left fun entry mem => ?_).trans (List.map_id' entries)
        rw [ih entry mem]
      rw [Value.reread, rereadEntries_eq_map, same, Record.entries_ofEntries distinct]
  | _ => rfl

/-- An object of attributes is faithful if their names differ and those that are present are. -/
theorem isFaithful_presentEntries {attributes : List (String × Option Value)}
    (distinct : (attributes.map Prod.fst).Nodup)
    (each : ∀ pair ∈ attributes, ∀ v ∈ pair.2, v.IsFaithful) :
    (Value.object (presentEntries attributes)).IsFaithful := by
  exact .object ((Schema.map_fst_presentEntries_sublist attributes).nodup distinct)
    (forall_mem_presentEntries.mpr each)

/-- A list of faithful documents is faithful. -/
theorem isFaithful_list_map {α : Type} {toValue : α → Value} {xs : List α}
    (each : ∀ x ∈ xs, (toValue x).IsFaithful) : (Value.list (xs.map toValue)).IsFaithful :=
  .list (List.forall_mem_map.mpr each)

end Value

/-- A faithful value is read back from its printed text, whatever gap follows it there. -/
theorem Json.readText_printAt_of_isFaithful [Machine] {v : Value} (faithful : v.IsFaithful)
    {gap : List Char} (gaps : ∀ c ∈ gap, Json.isGap c = true) :
    Json.readText (String.ofList (Json.printAt Json.documentStyle 0 v ++ gap)) = .ok v := by
  rw [Json.readText_printAt_append Json.documentStyle_readsAs faithful.isShowable gaps,
    faithful.reread]

end Stencil
