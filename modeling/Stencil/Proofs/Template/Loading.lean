/-
# How loading fails

What is neither a text, bytes, an object nor a template is no source of a template, and is
refused as such. Of everything else loading makes a template or fails with a failure of its
own, with one exception: where the text of the source has too many digits in a row, reading it
may stop at them, and then this failure is passed on.
-/

import Stencil.Proofs.Json.Reading
import Stencil.Proofs.Log.Trace
import Stencil.Template.Load

namespace Stencil

/-- Whether a failure says that a source is no template. -/
def Failure.isLoadFailure : Failure → Bool
  | .sourceMalformed .. | .sourceUndecodable _ | .sourceNotObject | .templateRefused _ => true
  | _ => false

namespace Template

/-- What a template may be asked to be loaded from. -/
inductive Origin
  | value (v : Value)
  | bytes (bs : List UInt8)
  | template (t : Template)

namespace Origin

/-- Loads a template; one that is a template already is the result. -/
def load : Origin → Traced Template
  | .value v => Template.load v
  | .bytes bs => loadBytes bs
  | .template t => pure t

/-- Whether a source may hold a template, judged by its type. -/
def isSupported : Origin → Bool
  | .value (.text _) | .value (.object _) | .bytes _ | .template _ => true
  | .value _ => false

/-- The text that a source is read from, if it is text, or bytes that decode to one. -/
def chars? : Origin → Option (List Char)
  | .value (.text s) => some s.toList
  | .bytes bs => (Text.decodeDetected bs).toOption
  | _ => none

end Origin

variable {failure : Failure} {count : Nat}

/-- A decoded object is a template or is refused. -/
theorem isLoadFailure_of_loadEntries {entries : List (String × Value)}
    (failed : (loadEntries entries).result = .error failure) : failure.isLoadFailure = true := by
  unfold loadEntries at failed
  split at failed
  · cases failed
    rfl
  · cases failed

/-- What was read as JSON fails to load with a failure of loading, unless reading stopped at too
many digits. -/
theorem failure_of_loadRead {read : Except Json.Error Value}
    (failed : (loadRead read).result = .error failure) :
    failure.isLoadFailure = true ∨
      ∃ count, read = .error (.tooManyDigits count) ∧ failure = .numeralTooLong count := by
  rcases read with (_ | count) | v
  · cases failed
    exact .inl rfl
  · cases failed
    exact .inr ⟨count, rfl, rfl⟩
  · cases v with
    | object entries => exact .inl (isLoadFailure_of_loadEntries failed)
    | _ =>
        cases failed
        exact .inl rfl

namespace Origin

/-- A source that may hold a template fails with a failure of loading, unless reading its text
stops at too many digits. -/
theorem failure_of_load {origin : Origin} (failed : origin.load.result = .error failure)
    (supported : origin.isSupported = true) :
    failure.isLoadFailure = true ∨
      ∃ count cs, origin.chars? = some cs ∧ Json.document cs = .error (.tooManyDigits count) ∧
        failure = .numeralTooLong count := by
  cases origin with
  | template t => cases failed
  | bytes bs =>
      cases decoded : Text.decodeDetected bs with
      | error e =>
          rw [load, loadBytes, decoded] at failed
          cases failed
          exact .inl rfl
      | ok cs =>
          rw [load, loadBytes, decoded] at failed
          rcases failure_of_loadRead failed with own | ⟨count, stopped, rfl⟩
          · exact .inl own
          · have stop := Json.readChars_eq_tooManyDigits_iff.mp stopped
            exact .inr ⟨count, cs, by rw [chars?, decoded]; rfl, stop, rfl⟩
  | value v =>
      cases v with
      | text s =>
          rcases failure_of_loadRead failed with own | ⟨count, stopped, rfl⟩
          · exact .inl own
          · exact .inr ⟨count, _, rfl, Json.readText_eq_tooManyDigits_iff.mp stopped, rfl⟩
      | object entries => exact .inl (isLoadFailure_of_loadEntries failed)
      | _ => cases supported

/-- A text that stops the reader at too many digits fails to load for this reason. -/
theorem load_of_tooManyDigits {origin : Origin} {cs : List Char} (held : origin.chars? = some cs)
    (stopped : Json.document cs = .error (.tooManyDigits count)) :
    origin.load.result = .error (.numeralTooLong count) := by
  cases origin with
  | template t => cases held
  | bytes bs =>
      cases decoded : Text.decodeDetected bs with
      | error e =>
          rw [chars?, decoded] at held
          cases held
      | ok other =>
          rw [chars?, decoded] at held
          obtain rfl := Option.some.inj held
          rw [load, loadBytes, decoded]
          simp only
          rw [Json.readChars_eq_tooManyDigits_iff.mpr stopped]
          rfl
  | value v =>
      cases v with
      | text s =>
          obtain rfl := Option.some.inj held
          rw [load, Template.load, loadText, Json.readText_eq_tooManyDigits_iff.mpr stopped]
          rfl
      | _ => cases held

/-- What a source of a type that holds no template is refused for. -/
theorem load_of_not_isSupported {origin : Origin} (unsupported : origin.isSupported = false) :
    ∃ name, origin.load.result = .error (.sourceUnsupported name) := by
  cases origin with
  | template t | bytes bs => cases unsupported
  | value v =>
      cases v with
      | text s | object entries => cases unsupported
      | _ => exact ⟨_, rfl⟩

/-- A source is refused for its type exactly if it holds no template whatever it says. Any other
failure says that the source is no template, but for one: loading fails for too many digits
exactly if reading the text of the source stops at them, and then they stand in it, more than
4300 in a row. -/
theorem load_failures_closed (origin : Origin) :
    ((∃ name, origin.load.result = .error (.sourceUnsupported name)) ↔
      origin.isSupported = false) ∧
    (∀ failure, origin.load.result = .error failure → origin.isSupported = true →
      failure.isLoadFailure = true ∨ ∃ count, failure = .numeralTooLong count) ∧
    ∀ count, origin.load.result = .error (.numeralTooLong count) ↔
      ∃ cs, origin.chars? = some cs ∧ Json.document cs = .error (.tooManyDigits count) ∧
        4300 < count ∧ Json.HoldsDigits count cs := by
  refine ⟨⟨?_, load_of_not_isSupported⟩, ?_, fun count => ⟨?_, ?_⟩⟩
  · rintro ⟨name, failed⟩
    rw [← Bool.not_eq_true]
    intro supported
    rcases failure_of_load failed supported with own | ⟨count, cs, -, -, long⟩
    · cases own
    · cases long
  · intro failure failed supported
    rcases failure_of_load failed supported with own | ⟨count, cs, -, -, long⟩
    · exact .inl own
    · exact .inr ⟨count, long⟩
  · intro failed
    have supported : origin.isSupported = true := by
      rw [← Bool.not_eq_false]
      intro unsupported
      obtain ⟨name, other⟩ := load_of_not_isSupported unsupported
      rw [failed] at other
      cases other
    rcases failure_of_load failed supported with own | ⟨_, cs, held, stopped, same⟩
    · cases own
    · cases same
      exact ⟨cs, held, stopped, (Json.reads_document cs).2 count stopped⟩
  · rintro ⟨cs, held, stopped, -, -⟩
    exact load_of_tooManyDigits held stopped

/-- Bytes with a mark in front, two for each character, that break off behind a bracket. -/
theorem load_failures_closed_cut_off :
    let origin : Origin := .bytes [0xFF, 0xFE, 0x5B, 0x00]
    let failure : Failure := .sourceMalformed .valueExpected ⟨1, 2, 1⟩
    origin.load.result = .error failure ∧ origin.isSupported = true ∧
      (failure.isLoadFailure = true ∨ ∃ count, failure = .numeralTooLong count) := by
  intro origin failure
  have outcome : origin.load.result.map (fun _ => ()) = .error failure := by decide +kernel
  have failed : origin.load.result = .error failure := map_eq_error.mp outcome
  exact ⟨failed, rfl, (load_failures_closed origin).2.1 failure failed rfl⟩

/-- A text of 4301 digits and nothing else is JSON, and loading it fails, but not with a failure
that says that it is no template. -/
theorem load_stops_at_long_integer :
    let origin : Origin := .value (.text (String.ofList (List.replicate 4301 '1')))
    let failure : Failure := .numeralTooLong 4301
    origin.isSupported = true ∧ origin.load.result = .error failure ∧
      failure.isLoadFailure = false := by
  intro origin failure
  have many : 4300 < (List.replicate 4301 '1').length := by
    rw [List.length_replicate]
    decide
  have stopped := Json.document_of_whole (Json.isWhole_replicate_one 4300) many false
  rw [List.length_replicate] at stopped
  refine ⟨rfl, ?_, rfl⟩
  exact load_of_tooManyDigits (congrArg some String.toList_ofList) stopped

end Origin

end Template

end Stencil
