/-
# Templates that bytes carry

A text that reads as an object begins with a gap or with a brace, and what comes next is a gap, a
brace or a quotation mark, so that such a text shows the encoding of its bytes. Loading then comes
to the same thing for the text, for its bytes in any encoding, with a mark or without one, and for
the object that it is read as.
-/

import Stencil.Proofs.Text.Carried
import Stencil.Proofs.Log.Trace
import Stencil.Template.Load

namespace Stencil

namespace Json

open Text (IsPlain)

variable {cs rest left : List Char} {entries : List (String × Value)} {c : Char} {fuel : Nat}

theorem isPlain_of_isGap (gap : isGap c = true) : IsPlain c := by
  simp only [isGap, Bool.or_eq_true, beq_iff_eq] at gap
  rcases gap with ((rfl | rfl) | rfl) | rfl <;> exact ⟨by decide, by decide⟩

/-- In front of a text there is a gap, or what there is behind the gap. -/
theorem exists_isPlain_of_skipGap (behind : skipGap cs = c :: rest) (plain : IsPlain c) :
    ∃ first more, cs = first :: more ∧ IsPlain first := by
  cases cs with
  | nil => cases behind
  | cons first more =>
      refine ⟨first, more, rfl, ?_⟩
      cases gap : isGap first with
      | true => exact isPlain_of_isGap gap
      | false =>
          rw [skipGap, List.dropWhile_cons, gap] at behind
          cases behind
          exact plain

/-- No number is an object. -/
theorem number_ne_object (cs : List Char) : number cs ≠ .ok (.object entries, left) := by
  unfold number
  split
  split
  · nofun
  · simp only
    split
    · unfold integer
      split <;> nofun
    · split <;> nofun

/-- No word and no number is an object. -/
theorem scalar_ne_object (cs : List Char) : scalar cs ≠ .ok (.object entries, left) := by
  intro read
  unfold scalar at read
  split at read
  · rename_i step found
    obtain ⟨⟨spelling, word⟩, mem, taken⟩ := List.exists_of_findSome?_eq_some found
    have apart : ∀ entry ∈ words, ∀ found, entry.2 ≠ .object found := by simp [words]
    simp only at taken
    split at taken
    · cases taken
      exact apart _ mem entries (congrArg Prod.fst (Except.ok.inj read))
    · cases taken
  · exact number_ne_object cs read

/-- The members of an object begin with a quotation mark. -/
theorem exists_of_members {found : List (String × Value)}
    (read : members fuel cs = .ok (found, left)) : ∃ more, cs = '"' :: more := by
  cases fuel with
  | zero => cases read
  | succ fuel =>
      rw [members.eq_def] at read
      simp only at read
      split at read
      · exact ⟨_, rfl⟩
      · cases read

/-- A text that is read as an object begins with a brace. -/
theorem exists_isPlain_of_value (read : value fuel cs = .ok (.object entries, left)) :
    ∃ first more, cs = '\x7b' :: first :: more ∧ IsPlain first := by
  cases fuel with
  | zero => cases read
  | succ fuel =>
      rw [value.eq_def] at read
      simp only at read
      split at read
      · split at read <;> cases read
      · split at read
        · cases read
        · split at read <;> cases read
      · rename_i inside
        suffices ∃ first more, inside = first :: more ∧ IsPlain first by
          obtain ⟨first, more, rfl, plain⟩ := this
          exact ⟨first, more, rfl, plain⟩
        split at read
        · rename_i closed
          exact exists_isPlain_of_skipGap closed ⟨by decide, by decide⟩
        · split at read
          · rename_i members
            obtain ⟨more, quoted⟩ := exists_of_members members
            exact exists_isPlain_of_skipGap quoted ⟨by decide, by decide⟩
          · cases read
      · exact absurd read (scalar_ne_object cs)

/-- A text that holds an object shows the encoding of its bytes. -/
theorem showsEncoding_of_document (read : document cs = .ok (.object entries)) :
    Text.ShowsEncoding cs := by
  unfold document at read
  split at read
  · cases read
  rename_i v afterValue found
  split at read
  · cases read
    obtain ⟨inner, more, opened, plain⟩ := exists_isPlain_of_value found
    have brace : IsPlain '\x7b' := ⟨by decide, by decide⟩
    cases cs with
    | nil => cases opened
    | cons first rest =>
        rw [skipGap, List.dropWhile_cons] at opened
        split at opened
        · rename_i gap
          obtain ⟨second, rest, rfl, other⟩ := exists_isPlain_of_skipGap opened brace
          exact ⟨first, second, rest, rfl, isPlain_of_isGap gap, other.pos⟩
        · cases opened
          exact ⟨_, inner, more, rfl, brace, plain.pos⟩
  · cases read

/-- A text that is accepted is read from its characters, and no mark is in front. -/
theorem readChars_of_readText {s : String} {v : Value} (read : readText s = .ok v) :
    readChars s.toList = .ok v := by
  unfold readText at read
  split at read
  · cases read
  · exact read

theorem document_of_readChars {v : Value} (read : readChars cs = .ok v) : document cs = .ok v := by
  unfold readChars at read
  cases done : document cs with
  | error stop => rw [done] at read; cases read
  | ok found => rw [done] at read; cases read; rfl

end Json

namespace Template

variable {s : String} {entries : List (String × Value)} {template : Template}

/-- A text that makes a template holds an object. -/
theorem exists_entries_of_loadText (loaded : (loadText s).result = .ok template) :
    ∃ entries, Json.readText s = .ok (.object entries) := by
  unfold loadText loadRead at loaded
  split at loaded
  · cases loaded
  · exact ⟨_, ‹_›⟩
  · cases loaded

/-- The bytes of a text that holds an object are as good as the text, for the trace as well. -/
theorem loadBytes_carry (read : Json.readText s = .ok (.object entries))
    (encoding : Text.Encoding) (marked : Bool) :
    loadBytes (encoding.carry marked s.toList) = loadText s := by
  have chars := Json.readChars_of_readText read
  have shows := Json.showsEncoding_of_document (Json.document_of_readChars chars)
  rw [loadBytes, Text.decodeDetected_carry shows]
  simp only
  rw [chars, loadText, read]

/-- A text that makes a template makes the same one when bytes carry it in any encoding, with a
byte order mark or without one, and so does the object that it is read as. -/
theorem load_however_carried (loaded : (load (.text s)).result = .ok template) :
    (∀ (encoding : Text.Encoding) (marked : Bool),
      (loadBytes (encoding.carry marked s.toList)).result = .ok template) ∧
    ∃ entries, Json.readText s = .ok (.object entries) ∧
      (load (.object entries)).result = .ok template := by
  obtain ⟨entries, read⟩ := exists_entries_of_loadText loaded
  refine ⟨fun encoding marked => ?_, entries, read, ?_⟩
  · rw [loadBytes_carry read]
    exact loaded
  · rw [load, loadText, read] at loaded
    exact loaded

/-- A text with a line feed in front and a character of two code units in it, in the two-byte
encoding with a mark and in the four-byte one without. -/
theorem load_however_carried_astral :
    let s := "\n\x7b\"id\": \"t\", \"name\": \"😀\", \"version\": \"2\", \"sections\": []\x7d"
    let marked := (Text.Encoding.utf16 false).carry true s.toList
    let unmarked := (Text.Encoding.utf32 false).carry false s.toList
    ∃ template, (load (.text s)).result = .ok template ∧ template.name = "😀" ∧
      marked.take 6 = [0xFF, 0xFE, 0x0A, 0x00, 0x7B, 0x00] ∧
      (loadBytes marked).result = .ok template ∧
      unmarked.take 6 = [0x0A, 0x00, 0x00, 0x00, 0x7B, 0x00] ∧
      (loadBytes unmarked).result = .ok template := by
  intro s marked unmarked
  have computed : (load (.text s)).result.toOption.map Template.name = some "😀" := by
    decide +kernel
  obtain ⟨template, loaded, named⟩ := eq_ok_of_toOption_map computed
  obtain ⟨carried, -⟩ := load_however_carried loaded
  exact ⟨template, loaded, named, by decide, carried _ true, by decide,
    carried _ false⟩

end Template

end Stencil
