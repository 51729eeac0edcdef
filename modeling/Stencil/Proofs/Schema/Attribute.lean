/-
# Attributes that are read back

A model is written as an object with one entry for each attribute that has a value, and
every attribute has a name of its own. So an attribute is found under its name or not at
all, and a reader that takes back the value of each attribute takes back the model.
-/

import Stencil.Proofs.Json.Reread
import Stencil.Proofs.Record
import Stencil.Schema.Coercion
import Stencil.Template.Encode

namespace Stencil

namespace Record

theorem insertEntry_of_not_mem {key : String} {v : Value} {entries : List (String × Value)}
    (fresh : key ∉ entries.map Prod.fst) : insertEntry key v entries = entries ++ [(key, v)] := by
  induction entries with
  | nil => rfl
  | cons entry rest ih =>
      obtain ⟨k, old⟩ := entry
      simp only [List.map_cons, List.mem_cons, not_or] at fresh
      rw [insertEntry, if_neg (Ne.symm fresh.1), ih fresh.2, List.cons_append]

theorem foldl_insert_of_nodup {entries : List (String × Value)} (before : List (String × Value))
    (distinct : ((before ++ entries).map Prod.fst).Nodup) :
    entries.foldl (fun (record : Record) (key, v) => record.insert key v) ⟨before⟩ =
      ⟨before ++ entries⟩ := by
  induction entries generalizing before with
  | nil => simp
  | cons entry rest ih =>
      obtain ⟨key, v⟩ := entry
      have fresh : key ∉ before.map Prod.fst := by
        intro mem
        rw [List.map_append, List.nodup_append] at distinct
        exact distinct.2.2 key mem key (by simp) rfl
      have moved : before ++ (key, v) :: rest = before ++ [(key, v)] ++ rest := by simp
      rw [moved] at distinct ⊢
      rw [List.foldl_cons, ← ih _ distinct, ← insertEntry_of_not_mem fresh]
      rfl

/-- Entries with distinct names make the record that they are. -/
theorem entries_ofEntries {entries : List (String × Value)}
    (distinct : (entries.map Prod.fst).Nodup) : (ofEntries entries).entries = entries := by
  rw [ofEntries, empty, foldl_insert_of_nodup [] distinct, List.nil_append]

end Record

namespace Schema

variable {α β : Type} {entries : List (String × Value)} {attributes : List (String × Option Value)}
  {name : String}

@[simp]
theorem Name.same_stored (name : String) : (Name.same name).stored = name := rfl

@[simp]
theorem Name.same_plain (name : String) : (Name.same name).plain = name := rfl

/-- The names of the entries are among those of the attributes, in the same order. -/
theorem map_fst_presentEntries_sublist (attributes : List (String × Option Value)) :
    ((presentEntries attributes).map Prod.fst).Sublist (attributes.map Prod.fst) := by
  induction attributes with
  | nil => exact .slnil
  | cons first rest ih =>
      obtain ⟨name, v?⟩ := first
      cases v? with
      | none => exact ih.cons name
      | some v => exact ih.cons_cons name

theorem lookup_presentEntries_of_not_mem (fresh : name ∉ attributes.map Prod.fst) :
    (presentEntries attributes).lookup name = none := by
  rw [List.lookup_eq_none_iff]
  intro entry mem
  rw [bne_iff_ne]
  rintro rfl
  exact fresh ((map_fst_presentEntries_sublist attributes).subset (List.mem_map_of_mem mem))

/-- Among attributes with distinct names each is found under its own name. -/
theorem lookup_presentEntries_of_mem (distinct : (attributes.map Prod.fst).Nodup)
    {v? : Option Value} (mem : (name, v?) ∈ attributes) :
    (presentEntries attributes).lookup name = v? := by
  induction attributes with
  | nil => cases mem
  | cons first rest ih =>
      obtain ⟨key, w?⟩ := first
      obtain ⟨fresh, others⟩ := List.nodup_cons.mp distinct
      rcases List.mem_cons.mp mem with found | later
      · obtain ⟨rfl, rfl⟩ := Prod.mk.inj found
        cases v? with
        | none =>
            show (presentEntries rest).lookup name = none
            exact lookup_presentEntries_of_not_mem fresh
        | some v => exact (Record.lookup_cons_eq _ _ v _).trans (if_pos rfl)
      · have other : name ≠ key := by
          rintro rfl
          exact fresh (List.mem_map.mpr ⟨_, later, rfl⟩)
        cases w? with
        | none => exact ih others later
        | some w =>
            exact (Record.lookup_cons_eq _ _ w _).trans ((if_neg other).trans (ih others later))

/-- Entries that hold the values of attributes as they are read back, each under its own
name, and nothing else. -/
structure Holds (number : Binary64 → Value) (attributes : List (String × Option Value))
    (entries : List (String × Value)) : Prop where
  found : ∀ name v?, (name, v?) ∈ attributes → entries.lookup name = v?.map (Value.reread number)
  absent : ∀ name, name ∉ attributes.map Prod.fst → entries.lookup name = none

/-- The attributes with their values as they are read back. -/
def rereadAttributes (number : Binary64 → Value) (attributes : List (String × Option Value)) :
    List (String × Option Value) :=
  attributes.map fun (name, v?) => (name, v?.map (Value.reread number))

theorem rereadEntries_presentEntries (number : Binary64 → Value)
    (attributes : List (String × Option Value)) :
    Value.rereadEntries number (presentEntries attributes) =
      presentEntries (rereadAttributes number attributes) := by
  induction attributes with
  | nil => rfl
  | cons first rest ih =>
      obtain ⟨name, v?⟩ := first
      cases v? with
      | none => exact ih
      | some v => exact congrArg (List.cons (name, v.reread number)) ih

/-- The object of attributes with distinct names is read back as an object that holds
them. -/
theorem exists_holds (number : Binary64 → Value) (distinct : (attributes.map Prod.fst).Nodup) :
    ∃ entries, (Value.object (presentEntries attributes)).reread number = .object entries ∧
      Holds number attributes entries := by
  have names : (rereadAttributes number attributes).map Prod.fst = attributes.map Prod.fst := by
    simp [rereadAttributes, Function.comp_def]
  have stays : (Record.ofEntries (Value.rereadEntries number (presentEntries attributes))).entries =
      presentEntries (rereadAttributes number attributes) := by
    rw [rereadEntries_presentEntries]
    exact Record.entries_ofEntries
      ((map_fst_presentEntries_sublist _).nodup (names.symm ▸ distinct))
  refine ⟨_, congrArg Value.object stays, fun name v? mem => ?_, fun name fresh => ?_⟩
  · exact lookup_presentEntries_of_mem (names.symm ▸ distinct) (List.mem_map.mpr ⟨_, mem, rfl⟩)
  · exact lookup_presentEntries_of_not_mem (names.symm ▸ fresh)

namespace Checked

@[simp]
theorem map_accepted (f : α → β) (a : α) : f <$> (accepted a : Checked α) = accepted (f a) := rfl

@[simp]
theorem seq_accepted (f : α → β) (a : α) :
    (accepted f : Checked (α → β)) <*> accepted a = accepted (f a) := rfl

@[simp]
theorem within_accepted (step : Step) (a : α) : (accepted a).within step = accepted a := rfl

/-- The items of a list are accepted if each of them is. -/
theorem items_map {γ : Type} {check : Value → Checked α} {toValue : γ → Value} {a : γ → α}
    (each : ∀ x, check (toValue x) = .accepted (a x)) (index : Nat) (xs : List γ) :
    items check index (xs.map toValue) = .accepted (xs.map a) := by
  induction xs generalizing index with
  | nil => rfl
  | cons x xs ih =>
      rw [List.map_cons, items, each, ih]
      rfl

end Checked

section Reading

variable {number : Binary64 → Value} {read : Value → Checked α}

/-- A model is accepted if it is read from whatever holds its attributes. -/
theorem readModel_of_holds {model : String} {readEntries : List (String × Value) → Checked α}
    {a : α} (distinct : (attributes.map Prod.fst).Nodup)
    (reads : ∀ entries, Holds number attributes entries → readEntries entries = .accepted a) :
    readModel model readEntries ((Value.object (presentEntries attributes)).reread number) =
      .accepted a := by
  obtain ⟨entries, object, holds⟩ := exists_holds number distinct
  rw [object]
  exact reads entries holds

theorem required_of_holds (holds : Holds number attributes entries) (name : Name) (v : Value)
    {a : α} (mem : (name.stored, some v) ∈ attributes)
    (reads : read (v.reread number) = .accepted a) : required entries name read = .accepted a := by
  have found := holds.found name.stored (some v) mem
  simp only [required, attribute?, found, Option.map_some, reads, Checked.within_accepted]

theorem defaulted_of_holds (holds : Holds number attributes entries) (name : Name) (v : Value)
    {absent a : α} (mem : (name.stored, some v) ∈ attributes)
    (reads : read (v.reread number) = .accepted a) :
    defaulted entries name absent read = .accepted a := by
  have found := holds.found name.stored (some v) mem
  simp only [defaulted, attribute?, found, Option.map_some, reads, Checked.within_accepted]

/-- An attribute that may be absent is read as what is kept of its value. -/
theorem optional_of_holds {γ : Type} (holds : Holds number attributes entries) (name : Name)
    (x? : Option γ) {toValue : γ → Value} {keep : γ → Option α}
    (mem : (name.stored, x?.map toValue) ∈ attributes)
    (plain : name.plain = name.stored ∨ name.plain ∉ attributes.map Prod.fst)
    (reads : ∀ x, readNullable read ((toValue x).reread number) = .accepted (keep x)) :
    optional entries name read = .accepted (x?.bind keep) := by
  have found := holds.found name.stored _ mem
  cases x? with
  | none =>
      -- the reader then looks for the plain name, which no other attribute may have taken
      have absent : entries.lookup name.plain = none := by
        rcases plain with same | fresh
        · rw [same, found]
          rfl
        · exact holds.absent name.plain fresh
      simp only [optional, defaulted, attribute?, found, Option.map_none, absent, Option.bind_none]
  | some x =>
      simp only [optional, defaulted, attribute?, found, Option.map_some, reads,
        Checked.within_accepted, Option.bind_some]

/-- A value that is not null is accepted where null may stand if it is accepted at all. -/
theorem readNullable_of_accepted {v : Value} {a : α} (present : v.isNull = false)
    (reads : read v = .accepted a) : readNullable read v = .accepted (some a) := by
  have eq : readNullable read v = some <$> read v := by
    cases v with
    | null => cases present
    | _ => rfl
  rw [eq, reads]
  rfl

end Reading

end Schema

end Stencil
