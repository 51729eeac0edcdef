/-
# What a text depends on

The keys that are listed for a text are exactly those that it depends on. An entry under any
other key can come, go or change, and the text stays what it is, since what is put in place of
a token is never split again. Under a key that is listed, two different texts never lead to the
same result: all else in the result stays as it is, so results of the same length come from
texts of the same length, and these stand at the same places.
-/

import Stencil.Proofs.Placeholder.Substitution

namespace Stencil

namespace Placeholder

/-- Whether a piece is a token of a key. -/
def Piece.mentions (key : String) : Piece → Bool
  | .literal _ => false
  | .token t => t.name == key

variable {key s other : String} {data : Record} {ps : List Piece}

/-- A key is listed for a text exactly if a piece of the text mentions it. -/
theorem mem_keys_iff_mentions {content : String} :
    key ∈ keys content ↔ ∃ p ∈ pieces content, p.mentions key = true := by
  rw [mem_keys]
  constructor
  · rintro ⟨t, mem, rfl⟩
    obtain ⟨p, inside, read⟩ := List.mem_filterMap.mp mem
    cases p with
    | literal c => cases read
    | token u =>
        obtain rfl := Option.some.inj read
        exact ⟨_, inside, beq_self_eq_true _⟩
  · rintro ⟨p, inside, mentioned⟩
    cases p with
    | literal c => cases mentioned
    | token t => exact ⟨t, List.mem_filterMap.mpr ⟨_, inside, rfl⟩, eq_of_beq mentioned⟩

namespace Piece

variable {p : Piece}

theorem shown_insert_of_mentions (nonempty : s ≠ "") (mentioned : p.mentions key = true) :
    p.shown (data.insert key (.text s)) = s.toList := by
  cases p with
  | literal c => cases mentioned
  | token t =>
      have found : (data.insert key (.text s)).value t.name = .text s := by
        rw [Record.value_insert, if_pos (eq_of_beq mentioned)]
      have present : ((data.insert key (.text s)).value t.name).isPresent = true := by
        rw [found]
        exact bne_iff_ne.mpr nonempty
      rw [shown, Token.shown_of_isPresent present, found, Value.displayText]

theorem shown_insert_of_not_mentions {v : Value} (unmentioned : p.mentions key = false) :
    p.shown (data.insert key v) = p.shown data := by
  cases p with
  | literal c => rfl
  | token t =>
      have same : (data.insert key v).value t.name = data.value t.name := by
        rw [Record.value_insert, if_neg (ne_of_beq_false unmentioned)]
      rw [shown, shown, Token.shown, Token.shown, same]

end Piece

/-- What pieces show under a text is as long as the text for each piece that mentions the key,
and what the other pieces show. -/
theorem length_shown_insert (nonempty : s ≠ "") :
    (ps.flatMap (Piece.shown (data.insert key (.text s)))).length =
      ((ps.filter fun p => !p.mentions key).flatMap (Piece.shown data)).length +
        ps.countP (Piece.mentions key) * s.length := by
  induction ps with
  | nil => simp
  | cons p rest ih =>
      cases mentioned : p.mentions key with
      | true =>
          rw [List.flatMap_cons, List.length_append, ih,
            Piece.shown_insert_of_mentions nonempty mentioned,
            List.filter_cons_of_neg (by simp [mentioned]), List.countP_cons_of_pos mentioned,
            String.length_toList, Nat.succ_mul]
          omega
      | false =>
          rw [List.flatMap_cons, List.length_append, ih,
            Piece.shown_insert_of_not_mentions mentioned,
            List.filter_cons_of_pos (by simp [mentioned]),
            List.countP_cons_of_neg (by simp [mentioned]), List.flatMap_cons, List.length_append]
          omega

/-- Where a key is mentioned, what is shown under a text tells how long the text is. -/
theorem length_eq_of_shown_insert (nonempty : s ≠ "") (nonemptyOther : other ≠ "")
    (mentioned : ∃ p ∈ ps, p.mentions key = true)
    (same : ps.flatMap (Piece.shown (data.insert key (.text s))) =
      ps.flatMap (Piece.shown (data.insert key (.text other)))) : s.length = other.length := by
  have lengths := congrArg List.length same
  rw [length_shown_insert nonempty, length_shown_insert nonemptyOther] at lengths
  exact Nat.eq_of_mul_eq_mul_left (List.countP_pos_iff.mpr mentioned) (Nat.add_left_cancel lengths)

/-- Where a key is mentioned, what is shown under a text tells the text. -/
theorem eq_of_shown_insert (nonempty : s ≠ "") (nonemptyOther : other ≠ "")
    (mentioned : ∃ p ∈ ps, p.mentions key = true)
    (same : ps.flatMap (Piece.shown (data.insert key (.text s))) =
      ps.flatMap (Piece.shown (data.insert key (.text other)))) : s = other := by
  have length : s.toList.length = other.toList.length := by
    rw [String.length_toList, String.length_toList]
    exact length_eq_of_shown_insert nonempty nonemptyOther mentioned same
  induction ps with
  | nil => simp at mentioned
  | cons p rest ih =>
      rw [List.flatMap_cons, List.flatMap_cons] at same
      cases first : p.mentions key with
      | true =>
          rw [Piece.shown_insert_of_mentions nonempty first,
            Piece.shown_insert_of_mentions nonemptyOther first] at same
          exact String.toList_inj.mp (List.append_inj_left same length)
      | false =>
          -- both results begin with what this piece shows, and the key is mentioned later
          rw [Piece.shown_insert_of_not_mentions first,
            Piece.shown_insert_of_not_mentions first] at same
          have later : ∃ p ∈ rest, p.mentions key = true := by simpa [first] using mentioned
          exact ih later (List.append_cancel_left same)

/-- The keys of a text are those that it depends on. Under a key that is not among them the
record may hold anything or nothing, and the text becomes the same. Under one that is among
them, in a record of integers that can be shown, different texts that are not empty make
different results. -/
theorem substitute_dependsOn_keys (content key : String) (data : Record) :
    (key ∉ keys content →
      ∀ changed : Record, (∀ k, k ≠ key → changed.value k = data.value k) →
        substitute content changed = substitute content data) ∧
    (key ∈ keys content → data.IsShowable →
      ∀ s other : String, s ≠ "" → other ≠ "" → s ≠ other →
        ∃ text otherText, substitute content (data.insert key (.text s)) = .ok text ∧
          substitute content (data.insert key (.text other)) = .ok otherText ∧
          text ≠ otherText) := by
  constructor
  · intro absent changed agree
    apply substitute_congr
    intro k mem
    apply agree k
    rintro rfl
    exact absent mem
  · intro mentioned showable s other nonempty nonemptyOther different
    have becomes (s : String) : substitute content (data.insert key (.text s)) =
        .ok (String.ofList
          ((pieces content).flatMap (Piece.shown (data.insert key (.text s))))) :=
      substitute_of_isShowable (showable.insert rfl)
    refine ⟨_, _, becomes s, becomes other, fun same => different ?_⟩
    exact eq_of_shown_insert nonempty nonemptyOther (mem_keys_iff_mentions.mp mentioned)
      (String.ofList_injective same)

/-- A value that looks like a token of the key, in front of two tokens of it: an entry that the
text does not mention can be taken out, and a letter is told from the letter twice. -/
theorem substitute_dependsOn_keys_repeated :
    let content := "\x7b\x7bj\x7d\x7d\x7b\x7bk\x7d\x7d\x7b\x7bk.a\x7d\x7d"
    let data : Record := ⟨[("i", .bool true), ("j", .text "\x7b\x7bk\x7d\x7d")]⟩
    let without : Record := ⟨[("j", .text "\x7b\x7bk\x7d\x7d")]⟩
    ("i" ∉ keys content ∧ (∀ k, k ≠ "i" → without.value k = data.value k) ∧
      substitute content without = substitute content data) ∧
    ("k" ∈ keys content ∧ data.IsShowable ∧
      ∃ text otherText, substitute content (data.insert "k" (.text "a")) = .ok text ∧
        substitute content (data.insert "k" (.text "aa")) = .ok otherText ∧
        text ≠ otherText) := by
  intro content data without
  have unmentioned : "i" ∉ keys content := by decide
  have mentioned : "k" ∈ keys content := by decide
  have agree : ∀ k, k ≠ "i" → without.value k = data.value k := by
    intro k other
    simp [data, without, Record.value, Record.get?, Record.lookup_cons_eq, other]
  have showable : data.IsShowable := by
    simp [Record.IsShowable, data, Value.isShowable]
  refine ⟨⟨unmentioned, agree, ?_⟩, mentioned, showable, ?_⟩
  · exact (substitute_dependsOn_keys content "i" data).1 unmentioned without agree
  · exact (substitute_dependsOn_keys content "k" data).2 mentioned showable "a" "aa"
      (by decide) (by decide) (by decide)

end Placeholder

end Stencil
