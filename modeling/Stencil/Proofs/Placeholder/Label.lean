/-
# Labels of keys

The label of a key is the key with its first character in upper case and a space in front of every
further capital letter. No key has a space in it, so the spaces of a label are exactly the ones
that were put there, and a label gives its key away but for the case of the first letter.
-/

import Mathlib.Data.List.Chain
import Stencil.Proofs.Placeholder.Grammar

namespace Stencil.Placeholder

/-- A key that a token can have. -/
def IsKey (key : String) : Prop := Token.IsGrammatical ⟨key.toList, none⟩

theorem isKey_iff {key : String} :
    IsKey key ↔ key.toList ≠ [] ∧ key.toList.all isKeyChar = true := by
  rw [List.all_eq_true]
  exact ⟨fun isKey => ⟨isKey.key_ne_nil, isKey.key_chars⟩,
    fun ⟨nonempty, keyed⟩ => ⟨nonempty, keyed, nofun, nofun⟩⟩

/-- A text with its first character in upper case. -/
def capitalized : List Char → List Char
  | [] => []
  | first :: rest => first.toUpper :: rest

/-- Two texts are the same up to the case of their first letter. -/
def SameButFirstCase (cs ds : List Char) : Prop :=
  ∃ c d rest, cs = c :: rest ∧ ds = d :: rest ∧ c.toUpper = d.toUpper

/-- How a label is made out of a key: it is the capitalized key with spaces put in, and of two
neighbours the first is such a space exactly if the second is a capital letter. -/
structure IsLabelOf (key label : List Char) : Prop where
  letters : label.filter (· ≠ ' ') = capitalized key
  neighbours : label.IsChain fun a b => a = ' ' ↔ b.isUpper = true
  head_ne : label.head? ≠ some ' '
  last_ne : label.getLast? ≠ some ' '

/-- A text with a space in front of every capital letter. -/
def spaced (cs : List Char) : List Char :=
  cs.flatMap fun c => if c.isUpper then [' ', c] else [c]

variable {c p : Char} {rest more cs ds : List Char} {key : String}

theorem ne_space_of_isKeyChar (keyed : isKeyChar c = true) : c ≠ ' ' := by
  rintro rfl
  exact absurd keyed (by decide)

theorem spaced_cons_of_isUpper (capital : c.isUpper = true) :
    spaced (c :: rest) = ' ' :: c :: spaced rest := by
  simp [spaced, capital]

theorem spaced_cons_of_not_isUpper (other : c.isUpper = false) :
    spaced (c :: rest) = c :: spaced rest := by
  simp [spaced, other]

theorem toNat_lt_of_isKeyChar (keyed : isKeyChar c = true) : c.toNat < 0x80 := by
  have last : 'z'.toNat = 122 ∧ 'Z'.toNat = 90 ∧ '9'.toNat = 57 := by decide
  delta isKeyChar Char.isAlphanum Char.isAlpha Char.isUpper Char.isLower Char.isDigit at keyed
  simp only [ge_iff_le, UInt32.le_iff_toNat_le, Char.toNat_val, Bool.or_eq_true,
    Bool.and_eq_true, decide_eq_true_eq, beq_iff_eq] at keyed
  rcases keyed with ((capital | small) | digit) | rfl
  · omega
  · omega
  · omega
  · decide

/-- The upper case of a character of a key is one character, no space, and its own upper case. -/
theorem upperChar_of_isKeyChar (keyed : isKeyChar c = true) :
    Text.upperChar c = [c.toUpper] ∧ c.toUpper ≠ ' ' ∧ c.toUpper.toUpper = c.toUpper := by
  have each : ∀ code < 0x80, isKeyChar (.ofNat code) = true →
      let c := Char.ofNat code
      Text.upperChar c = [c.toUpper] ∧ c.toUpper ≠ ' ' ∧ c.toUpper.toUpper = c.toUpper := by
    decide +kernel
  have read := each c.toNat (toNat_lt_of_isKeyChar keyed)
  rw [Char.ofNat_toNat] at read
  exact read keyed

/-- Without its spaces a spaced text is the text. -/
theorem filter_spaced (apart : ∀ c ∈ cs, c ≠ ' ') : (spaced cs).filter (· ≠ ' ') = cs := by
  induction cs with
  | nil => rfl
  | cons c rest ih =>
      obtain ⟨first, others⟩ := List.forall_mem_cons.mp apart
      have kept : (c :: spaced rest).filter (· ≠ ' ') = c :: rest := by
        rw [List.filter_cons_of_pos (by simpa using first), ih others]
      cases capital : c.isUpper with
      | true =>
          rw [spaced_cons_of_isUpper capital, List.filter_cons_of_neg (by simp), kept]
      | false => rw [spaced_cons_of_not_isUpper capital, kept]

/-- Behind a character that is no space, a spaced text has its spaces in front of the capital
letters and nowhere else. -/
theorem isChain_spaced (apart : ∀ c ∈ cs, c ≠ ' ') (before : p ≠ ' ') :
    (p :: spaced cs).IsChain (fun a b => a = ' ' ↔ b.isUpper = true) ∧
      (p :: spaced cs).getLast? ≠ some ' ' := by
  induction cs generalizing p with
  | nil => exact ⟨.singleton p, by simpa [spaced] using before⟩
  | cons c rest ih =>
      obtain ⟨first, others⟩ := List.forall_mem_cons.mp apart
      obtain ⟨chain, last⟩ := ih others first
      cases capital : c.isUpper with
      | true =>
          have space : p = ' ' ↔ (' ').isUpper = true := by simp [before]
          have letter : ' ' = ' ' ↔ c.isUpper = true := by simp [capital]
          rw [spaced_cons_of_isUpper capital]
          exact ⟨.cons_cons space (.cons_cons letter chain), by simpa using last⟩
      | false =>
          have other : p = ' ' ↔ c.isUpper = true := by simp [before, capital]
          rw [spaced_cons_of_not_isUpper capital]
          exact ⟨.cons_cons other chain, by simpa using last⟩

/-- A text that has its spaces in front of the capital letters and nowhere else is the spaced
one. A space is taken off together with the letter behind it. -/
theorem eq_spaced_of_isChain {p : Char} (more : List Char) (before : p ≠ ' ')
    (chain : (p :: more).IsChain fun a b => a = ' ' ↔ b.isUpper = true)
    (last : (p :: more).getLast? ≠ some ' ') : more = spaced (more.filter (· ≠ ' ')) := by
  cases more with
  | nil => rfl
  | cons c rest =>
      obtain ⟨first, chain⟩ := List.isChain_cons_cons.mp chain
      have last : (c :: rest).getLast? ≠ some ' ' := by simpa using last
      have small : c.isUpper = false := by simpa [before] using first
      by_cases space : c = ' '
      · subst space
        cases rest with
        | nil => exact absurd rfl last
        | cons d rest =>
            obtain ⟨second, chain⟩ := List.isChain_cons_cons.mp chain
            have last : (d :: rest).getLast? ≠ some ' ' := by simpa using last
            have capital : d.isUpper = true := second.mp rfl
            have apart : d ≠ ' ' := by rintro rfl; cases capital
            rw [List.filter_cons_of_neg (by simp), List.filter_cons_of_pos (by simpa using apart),
              spaced_cons_of_isUpper capital, ← eq_spaced_of_isChain rest apart chain last]
      · rw [List.filter_cons_of_pos (by simpa using space), spaced_cons_of_not_isUpper small,
          ← eq_spaced_of_isChain rest space chain last]
termination_by more.length

/-- A key is a first character and others, and so is its label; what follows the first character
of the label is spaced. -/
theorem exists_label_of_isKey (isKey : IsKey key) :
    ∃ first rest, key.toList = first :: rest ∧
      (label key).toList = first.toUpper :: spaced rest ∧
      first.toUpper ≠ ' ' ∧ first.toUpper.toUpper = first.toUpper ∧ ∀ c ∈ rest, c ≠ ' ' := by
  cases spelled : key.toList with
  | nil => exact absurd spelled isKey.key_ne_nil
  | cons first rest =>
      have keyed : ∀ c ∈ first :: rest, isKeyChar c = true := spelled ▸ isKey.key_chars
      obtain ⟨upper, apart, again⟩ := upperChar_of_isKeyChar (keyed first List.mem_cons_self)
      refine ⟨first, rest, rfl, ?_, apart, again, fun c mem => ?_⟩
      · rw [label, spelled]
        simp only [String.toList_ofList, upper]
        rfl
      · exact ne_space_of_isKeyChar (keyed c (List.mem_cons_of_mem first mem))

/-- The label of a key is the one text that is made out of it as labels are. -/
theorem label_eq_iff_isLabelOf (isKey : IsKey key) {text : String} :
    label key = text ↔ IsLabelOf key.toList text.toList := by
  obtain ⟨first, rest, spelled, shown, apart, -, others⟩ := exists_label_of_isKey isKey
  rw [spelled]
  constructor
  · rintro rfl
    rw [shown]
    obtain ⟨chain, last⟩ := isChain_spaced others apart
    refine ⟨?_, chain, by simpa using apart, last⟩
    rw [List.filter_cons_of_pos (by simpa using apart), filter_spaced others, capitalized]
  · rintro ⟨letters, chain, head, last⟩
    rw [← String.toList_inj, shown]
    cases made : text.toList with
    | nil => rw [made] at letters; cases letters
    | cons p more =>
        rw [made] at letters chain head last
        have before : p ≠ ' ' := by simpa using head
        rw [List.filter_cons_of_pos (by simpa using before), capitalized] at letters
        obtain ⟨same, kept⟩ := List.cons.inj letters
        rw [eq_spaced_of_isChain more before chain last, same, kept]

/-- Without its spaces the label of a key is the key up to the case of the first letter. -/
theorem sameButFirstCase_letters (isKey : IsKey key) :
    SameButFirstCase ((label key).toList.filter (· ≠ ' ')) key.toList := by
  obtain ⟨first, rest, spelled, -, -, again, -⟩ := exists_label_of_isKey isKey
  rw [((label_eq_iff_isLabelOf isKey).mp rfl).letters, spelled]
  exact ⟨_, first, rest, rfl, rfl, again⟩

/-- Two keys have the same label exactly if they are the same up to the case of their first
letters. -/
theorem label_inj_iff {other : String} (isKey : IsKey key) (otherKey : IsKey other) :
    label key = label other ↔ SameButFirstCase key.toList other.toList := by
  obtain ⟨first, rest, spelled, shown, -⟩ := exists_label_of_isKey isKey
  obtain ⟨initial, more, otherSpelled, otherShown, -⟩ := exists_label_of_isKey otherKey
  constructor
  · intro same
    have letters := ((label_eq_iff_isLabelOf isKey).mp rfl).letters
    rw [same, ((label_eq_iff_isLabelOf otherKey).mp rfl).letters, spelled, otherSpelled] at letters
    obtain ⟨upper, rfl⟩ := List.cons.inj letters
    exact ⟨first, initial, more, spelled, otherSpelled, upper.symm⟩
  · rintro ⟨c, d, tail, spelling, otherSpelling, upper⟩
    cases spelling.symm.trans spelled
    cases otherSpelling.symm.trans otherSpelled
    rw [← String.toList_inj, shown, otherShown, upper]

/-- Labels keep keys apart: the label of a key is the capitalized key with one space in front of
each capital letter but the first character, and with no other spaces; without its spaces it is
the key up to the case of the first letter; and the labels of two keys are the same exactly if the
keys are the same up to the case of their first letters. -/
theorem label_keeps_keys_apart (isKey : IsKey key) :
    (∀ text : String, label key = text ↔ IsLabelOf key.toList text.toList) ∧
      SameButFirstCase ((label key).toList.filter (· ≠ ' ')) key.toList ∧
      ∀ other : String, IsKey other →
        (label key = label other ↔ SameButFirstCase key.toList other.toList) :=
  ⟨fun _ => label_eq_iff_isLabelOf isKey, sameButFirstCase_letters isKey,
    fun _ otherKey => label_inj_iff isKey otherKey⟩

/-- A run of capitals is taken apart, digits and low lines are not, and a capital in front makes no
difference, while one further on does. -/
theorem label_keeps_keys_apart_capitals :
    IsKey "userID2_x" ∧ IsKey "UserID2_x" ∧ IsKey "userId2_x" ∧
      label "userID2_x" = "User I D2_x" ∧
      IsLabelOf "userID2_x".toList "User I D2_x".toList ∧
      label "userID2_x" = label "UserID2_x" ∧ label "userID2_x" ≠ label "userId2_x" := by
  have small : IsKey "userID2_x" := isKey_iff.mpr (by decide)
  have large : IsKey "UserID2_x" := isKey_iff.mpr (by decide)
  have other : IsKey "userId2_x" := isKey_iff.mpr (by decide)
  have shown : label "userID2_x" = "User I D2_x" := by decide
  obtain ⟨made, -, apart⟩ := label_keeps_keys_apart small
  refine ⟨small, large, other, shown, (made _).mp shown, (apart _ large).mpr ?_, fun same => ?_⟩
  · exact ⟨'u', 'U', "serID2_x".toList, by decide, by decide, by decide⟩
  · obtain ⟨c, d, rest, spelled, otherSpelled, -⟩ := (apart _ other).mp same
    have tail : "userID2_x".toList.tail = "userId2_x".toList.tail := by
      rw [spelled, otherSpelled, List.tail_cons, List.tail_cons]
    exact absurd tail (by decide)

end Stencil.Placeholder
