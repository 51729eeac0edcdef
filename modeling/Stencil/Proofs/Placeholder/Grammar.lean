/-
# The grammar of tokens

A token has a key of one or more key characters and may have a default text of one
or more characters other than the closing brace. Reading is exact for this grammar:
a token is read in front of a text if and only if it follows the grammar and its
written form stands there. At most one token begins at any place.
-/

import Stencil.Placeholder
import Stencil.Proofs.Text.Run

namespace Stencil.Placeholder

/-- A token that follows the grammar. -/
structure Token.IsGrammatical (t : Token) : Prop where
  key_ne_nil : t.key ≠ []
  key_chars : ∀ c ∈ t.key, isKeyChar c = true
  fallback_ne_nil : t.fallback ≠ some []
  fallback_chars : ∀ text, t.fallback = some text → '\x7d' ∉ text

/-- A token of the grammar begins in front of a text. -/
def BeginsToken (cs : List Char) : Prop :=
  ∃ t : Token, t.IsGrammatical ∧ t.written <+: cs

theorem written_eq_of_bare (key : List Char) :
    Token.written ⟨key, none⟩ = '\x7b' :: '\x7b' :: (key ++ ['\x7d', '\x7d']) := by
  simp [Token.written]

theorem written_eq_of_fallback (key text : List Char) :
    Token.written ⟨key, some text⟩ =
      '\x7b' :: '\x7b' :: (key ++ '.' :: (text ++ ['\x7d', '\x7d'])) := by
  simp [Token.written]

/-- The written form is never empty. -/
theorem Token.written_length_pos (t : Token) : 0 < t.written.length := by
  simp [Token.written]

/-- What is read follows the grammar. -/
theorem isGrammatical_of_read? {cs : List Char} {t : Token} :
    Token.read? cs = some t → t.IsGrammatical := by
  fun_cases Token.read? cs with
  | case2 rest after closes keyed =>
      rintro ⟨⟩
      exact ⟨keyed, fun c => Text.of_mem_takeWhile, by simp, by simp⟩
  | case4 rest more dot after closes keyed texted =>
      rintro ⟨⟩
      refine ⟨keyed, fun c => Text.of_mem_takeWhile, by simpa using texted, ?_⟩
      rintro text ⟨⟩ inside
      simpa using Text.of_mem_takeWhile inside
  | _ => intro h; cases h

/-- What is read stands in front of the text. -/
theorem written_prefix_of_read? {cs : List Char} {t : Token} :
    Token.read? cs = some t → t.written <+: cs := by
  fun_cases Token.read? cs with
  | case2 rest after closes keyed =>
      rintro ⟨⟩
      refine ⟨after, ?_⟩
      simp only [written_eq_of_bare, List.cons_append, List.append_assoc, List.nil_append]
      rw [← closes, List.takeWhile_append_dropWhile]
  | case4 rest more dot after closes keyed texted =>
      rintro ⟨⟩
      refine ⟨after, ?_⟩
      simp only [written_eq_of_fallback, List.cons_append, List.append_assoc, List.nil_append]
      rw [← closes, List.takeWhile_append_dropWhile, ← dot, List.takeWhile_append_dropWhile]
  | _ => intro h; cases h

/-- A token of the grammar is read where its written form stands. -/
theorem read?_written_append {t : Token} (h : t.IsGrammatical) (rest : List Char) :
    Token.read? (t.written ++ rest) = some t := by
  obtain ⟨key, fallback⟩ := t
  have keyed : key ≠ [] := h.key_ne_nil
  cases fallback with
  | none =>
      have stops : Text.StopsBefore isKeyChar ('\x7d' :: '\x7d' :: rest) :=
        Text.stopsBefore_cons (by decide)
      rw [written_eq_of_bare]
      simp only [List.cons_append, List.append_assoc, List.nil_append, Token.read?]
      rw [Text.takeWhile_append_of_stopsBefore h.key_chars stops,
        Text.dropWhile_append_of_stopsBefore h.key_chars stops]
      cases key with
      | nil => contradiction
      | cons c key => rfl
  | some text =>
      have texted : text ≠ [] := by simpa using h.fallback_ne_nil
      have open_ : ∀ c ∈ text, decide (c ≠ '\x7d') = true := by
        intro c inside
        have apart : c ≠ '\x7d' := fun same => h.fallback_chars text rfl (same ▸ inside)
        simpa using apart
      have stopsKey : Text.StopsBefore isKeyChar ('.' :: (text ++ '\x7d' :: '\x7d' :: rest)) :=
        Text.stopsBefore_cons (by decide)
      have stopsText : Text.StopsBefore (fun c => decide (c ≠ '\x7d')) ('\x7d' :: '\x7d' :: rest) :=
        Text.stopsBefore_cons (by decide)
      rw [written_eq_of_fallback]
      simp only [List.cons_append, List.append_assoc, List.nil_append, Token.read?]
      rw [Text.takeWhile_append_of_stopsBefore h.key_chars stopsKey,
        Text.dropWhile_append_of_stopsBefore h.key_chars stopsKey]
      cases key with
      | nil => contradiction
      | cons c key =>
          simp only
          rw [Text.takeWhile_append_of_stopsBefore open_ stopsText,
            Text.dropWhile_append_of_stopsBefore open_ stopsText]
          cases text with
          | nil => contradiction
          | cons d text => rfl

/-- Reading is exact for the grammar. -/
theorem read?_eq_some_iff {cs : List Char} {t : Token} :
    Token.read? cs = some t ↔ t.IsGrammatical ∧ t.written <+: cs := by
  constructor
  · exact fun h => ⟨isGrammatical_of_read? h, written_prefix_of_read? h⟩
  · rintro ⟨grammatical, rest, rfl⟩
    exact read?_written_append grammatical rest

/-- No token is read exactly where none begins. -/
theorem read?_eq_none_iff {cs : List Char} : Token.read? cs = none ↔ ¬ BeginsToken cs := by
  rw [Option.eq_none_iff_forall_ne_some]
  simp [BeginsToken, read?_eq_some_iff]

end Stencil.Placeholder
