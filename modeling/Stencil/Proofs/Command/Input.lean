/-
# What a run reads

A run reports a failure of its input if it foresees it. It foresees all failures but those of
an option without a path, of a path that no disk can have, of a text that is nested too deep, and
of one at which the reader of JSON stops for too many digits in a row. Whatever is read can be
shown.
-/

import Stencil.Command.Run
import Stencil.Proofs.Template.Integers
import Stencil.Proofs.Template.Loading

namespace Stencil.Command

variable {α β : Type}

/-- Part of the reading of the input fails, and a run has no event for this failure. -/
def Unforeseen (x : Except Failure α) : Prop :=
  ∃ failure, x = .error failure ∧ inputEvent failure = none

section Outcomes

variable {x : Except Failure α} {failure : Failure}

@[simp]
theorem not_unforeseen_ok (a : α) : ¬ Unforeseen (.ok a : Except Failure α) := by
  rintro ⟨failure, ⟨⟩, -⟩

@[simp]
theorem unforeseen_error :
    Unforeseen (.error failure : Except Failure α) ↔ inputEvent failure = none := by
  simp [Unforeseen]

@[simp]
theorem unforeseen_map {f : α → β} : Unforeseen (x.map f) ↔ Unforeseen x := by
  cases x <;> simp [Except.map]

/-- A sequence fails in an unforeseen way if one of its parts does. -/
theorem unforeseen_bind {next : α → Except Failure β} :
    Unforeseen (x.bind next) ↔ Unforeseen x ∨ ∃ a, x = .ok a ∧ Unforeseen (next a) := by
  cases x <;> simp [Except.bind]

end Outcomes

section Texts

variable [Machine] {disk : Files.Disk} {cs : List Char}

/-- A text is nested too deep to be read, or the reader of JSON stops in it for too many
digits. -/
def Overtaxes (work : List Char → Nesting) (cs : List Char) : Prop :=
  ¬ Machine.allows (work cs) = true ∨ ∃ count, Json.document cs = .error (.tooManyDigits count)

/-- What a run does not foresee of a file that an option names: there is no path, or no disk can
have it, or its text is too much for the reader of JSON. -/
def Obstructs (disk : Files.Disk) (work : List Char → Nesting) : Operand → Prop
  | .nothing => True
  | .text s =>
    Files.Disk.hasNull (.ofString s) = true ∨
      ∃ cs, readText disk (.ofString s) = .ok cs ∧ Overtaxes work cs

theorem unforeseen_readText {p : Files.Path} :
    Unforeseen (readText disk p) ↔ Files.Disk.hasNull p = true := by
  have read : Unforeseen (disk.read p) ↔ Files.Disk.hasNull p = true := by
    unfold Files.Disk.read
    split
    · rename_i null
      exact iff_of_true ⟨_, rfl, rfl⟩ null
    · rename_i whole
      refine iff_of_false ?_ whole
      split
      · simp [inputEvent]
      · split <;> simp [inputEvent]
  rw [← read]
  refine unforeseen_bind.trans (or_iff_left ?_)
  rintro ⟨bytes, -, failure, failed, silent⟩
  cases decoded : Text.decodeStrict bytes with
  | ok cs =>
      rw [decoded] at failed
      cases failed
  | error error =>
      rw [decoded] at failed
      cases failed
      cases silent

theorem readText_ofList_eq_tooManyDigits_iff {count : Nat} :
    Json.readText (String.ofList cs) = .error (.tooManyDigits count) ↔
      Json.document cs = .error (.tooManyDigits count) := by
  rw [Json.readText_eq_tooManyDigits_iff, String.toList_ofList]

/-- The data in a text are read, or fail in a way that is foreseen, unless the reader stops for
too many digits. -/
theorem unforeseen_readJson :
    Unforeseen (readJson cs) ↔ ∃ count, Json.document cs = .error (.tooManyDigits count) := by
  simp only [← readText_ofList_eq_tooManyDigits_iff]
  unfold readJson
  rcases Json.readText (String.ofList cs) with (_ | count) | v <;> simp [inputEvent]

omit [Machine] in
/-- A failure that says that a source is no template is foreseen. -/
theorem inputEvent_ne_none {failure : Failure} (own : failure.isLoadFailure = true) :
    inputEvent failure ≠ none := by
  unfold Failure.isLoadFailure at own
  split at own
  · simp [inputEvent]
  · simp [inputEvent]
  · simp [inputEvent]
  · simp [inputEvent]
  · cases own

/-- The template in a text is loaded, or fails in a way that is foreseen, unless the reader stops
for too many digits. -/
theorem unforeseen_loadText :
    Unforeseen (Template.loadText (String.ofList cs)).result ↔
      ∃ count, Json.document cs = .error (.tooManyDigits count) := by
  simp only [← readText_ofList_eq_tooManyDigits_iff]
  constructor
  · rintro ⟨failure, failed, silent⟩
    rcases Template.failure_of_loadRead failed with own | ⟨count, stopped, -⟩
    · exact absurd silent (inputEvent_ne_none own)
    · exact ⟨count, stopped⟩
  · rintro ⟨count, stopped⟩
    rw [Template.loadText, stopped]
    exact ⟨_, rfl, rfl⟩

/-- Reading goes on in a text that is not nested too deep. -/
theorem unforeseen_descend {work : Nesting} {next : Except Failure α} :
    Unforeseen ((descend work).bind fun _ => next) ↔
      ¬ Machine.allows work = true ∨ Unforeseen next := by
  unfold descend
  cases Machine.allows work with
  | true => simp [Except.bind]
  | false => simp [Except.bind, inputEvent]

/-- The file of an option is read in a foreseen way unless it obstructs the run. -/
theorem unforeseen_file {work : List Char → Nesting} {next : List Char → Except Failure α}
    (stops : ∀ cs, Unforeseen (next cs) ↔
      ∃ count, Json.document cs = .error (.tooManyDigits count)) (path : Operand) :
    Unforeseen (((pathOf path).bind (readText disk)).bind fun cs =>
      (descend (work cs)).bind fun _ => next cs) ↔ Obstructs disk work path := by
  cases path with
  | nothing => exact iff_of_true ⟨_, rfl, rfl⟩ trivial
  | text s =>
      show Unforeseen ((readText disk (.ofString s)).bind _) ↔ _
      rw [unforeseen_bind, unforeseen_readText, Obstructs]
      simp only [unforeseen_descend, stops, Overtaxes]

end Texts

section Inputs

variable [Machine] {disk : Files.Disk} {source : Source} {data : Option Operand} {t : Template}
  {v : Value}

theorem result_readTemplate_file (path : Operand) :
    (readTemplate disk (.file path)).result =
      ((pathOf path).bind (readText disk)).bind fun cs =>
        (descend (.template cs)).bind fun _ => (Template.loadText (String.ofList cs)).result := by
  simp only [readTemplate, Traced.result_bind, Traced.result_ofExcept]

theorem readData_some (path : Operand) :
    readData disk (some path) =
      ((pathOf path).bind (readText disk)).bind fun cs =>
        (descend (.data cs)).bind fun _ => readJson cs := by
  rw [readData]
  cases pathOf path <;> rfl

theorem result_readInput (disk : Files.Disk) (source : Source) (data : Option Operand) :
    (readInput disk source data).result =
      (readTemplate disk source).result.bind fun t => (readData disk data).map fun v => (t, v) := by
  rw [readInput, Traced.result_bind]
  congr 1
  funext t
  rw [Traced.result_bind, Traced.result_ofExcept]
  cases readData disk data <;> rfl

theorem readInput_eq_ok :
    (readInput disk source data).result = .ok (t, v) ↔
      (readTemplate disk source).result = .ok t ∧ readData disk data = .ok v := by
  rw [result_readInput, bind_eq_ok]
  simp [map_eq_ok]

/-- The template is read in a foreseen way unless its file obstructs the run. -/
theorem unforeseen_readTemplate :
    Unforeseen (readTemplate disk source).result ↔
      ∃ path, source = .file path ∧ Obstructs disk .template path := by
  cases source with
  | file path =>
      rw [result_readTemplate_file, unforeseen_file fun _ => unforeseen_loadText]
      simp
  | builtIn id =>
      refine iff_of_false ?_ (by simp)
      show ¬ Unforeseen (Catalog.find id).result
      unfold Catalog.find
      split
      · exact not_unforeseen_ok _
      · exact unforeseen_error.not.mpr (Option.some_ne_none _)

/-- The input is read in a foreseen way unless the file of the template obstructs the run, or,
where there is a template, the file of the data does. -/
theorem unforeseen_readInput :
    Unforeseen (readInput disk source data).result ↔
      (∃ path, source = .file path ∧ Obstructs disk .template path) ∨
        HasResult (readTemplate disk source).result ∧
          ∃ path ∈ data, Obstructs disk .data path := by
  have dataIff : Unforeseen (readData disk data) ↔ ∃ path ∈ data, Obstructs disk .data path := by
    cases data with
    | none => simp [readData]
    | some path => simp [readData_some, unforeseen_file fun _ => unforeseen_readJson]
  rw [result_readInput, unforeseen_bind, unforeseen_readTemplate, ← dataIff]
  simp only [unforeseen_map, HasResult, ← exists_and_right]

/-- The integers of a template that is read can be shown. -/
theorem isShowableInt_of_readTemplate (read : (readTemplate disk source).result = .ok t) :
    ∀ i ∈ t.integers, Value.isShowableInt i = true := by
  cases source with
  | file path =>
      rw [result_readTemplate_file] at read
      obtain ⟨cs, -, entered⟩ := bind_eq_ok.mp read
      obtain ⟨-, -, loaded⟩ := bind_eq_ok.mp entered
      exact Template.isShowableInt_of_loadText loaded
  | builtIn id =>
      rw [Catalog.integers_of_find read]
      exact List.forall_mem_nil _

/-- Data that are read can be shown. -/
theorem isShowable_of_readData (read : readData disk data = .ok v) : v.isShowable = true := by
  cases data with
  | none =>
      cases read
      rfl
  | some path =>
      rw [readData_some] at read
      obtain ⟨cs, -, entered⟩ := bind_eq_ok.mp read
      obtain ⟨-, -, whole⟩ := bind_eq_ok.mp entered
      unfold readJson at whole
      split at whole
      · rename_i v done
        cases whole
        exact Json.isShowable_of_readText done
      all_goals cases whole

end Inputs

end Stencil.Command
