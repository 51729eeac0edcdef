/-
# Splitting a text at its tokens

A text is split into literal pieces and tokens by turns. The split is proper when no
token of the grammar begins, in the whole text, at any place inside a literal piece.
Every text has exactly one proper split, however its braces overlap, and both the
substitution of data and the list of keys are read off that split. What is shown for
a token is put there as it is and never split again.
-/

import Mathlib.Logic.ExistsUnique
import Stencil.Proofs.Placeholder.Grammar
import Stencil.Proofs.Placeholder.Substitution

namespace Stencil.Placeholder

/-- A text taken apart: literal pieces, which may be empty, and tokens by turns. -/
inductive Split
  | last (literal : List Char)
  | token (literal : List Char) (t : Token) (rest : Split)
  deriving DecidableEq, Repr

/-- No token of the grammar begins inside a literal in front of what follows it. -/
def IsQuiet (literal following : List Char) : Prop :=
  ∀ skipped left, literal = skipped ++ left → left ≠ [] → ¬ BeginsToken (left ++ following)

namespace Split

/-- The text that was taken apart. -/
def written : Split → List Char
  | .last literal => literal
  | .token literal t rest => literal ++ (t.written ++ rest.written)

/-- The tokens in order. -/
def tokens : Split → List Token
  | .last _ => []
  | .token _ t rest => t :: rest.tokens

/-- The literal pieces unchanged, and for each token what it shows. -/
def shown (data : Record) : Split → List Char
  | .last literal => literal
  | .token literal t rest => literal ++ (t.shown data ++ rest.shown data)

/-- The tokens follow the grammar, and none begins inside a literal piece. -/
def IsProper : Split → Prop
  | .last literal => IsQuiet literal []
  | .token literal t rest =>
    t.IsGrammatical ∧ IsQuiet literal (t.written ++ rest.written) ∧ rest.IsProper

/-- A proper split of a text. -/
def IsSplitOf (s : Split) (content : String) : Prop :=
  s.written = content.toList ∧ s.IsProper

/-- The pieces of a split, with one piece for each literal character. -/
def pieces : Split → List Piece
  | .last literal => literal.map .literal
  | .token literal t rest => literal.map .literal ++ .token t :: rest.pieces

/-- The split with one more literal character in front. -/
def push (c : Char) : Split → Split
  | .last literal => .last (c :: literal)
  | .token literal t rest => .token (c :: literal) t rest

/-- The split whose pieces are given. -/
def ofPieces : List Piece → Split
  | [] => .last []
  | .literal c :: rest => (ofPieces rest).push c
  | .token t :: rest => .token [] t (ofPieces rest)

@[simp]
theorem written_push (c : Char) (s : Split) : (s.push c).written = c :: s.written := by
  cases s <;> rfl

theorem isQuiet_nil (following : List Char) : IsQuiet [] following := by
  intro skipped left split inside
  simp_all

/-- One more literal character keeps a literal quiet if no token begins with it. -/
theorem isQuiet_cons {c : Char} {literal following : List Char} :
    IsQuiet (c :: literal) following ↔
      ¬ BeginsToken (c :: (literal ++ following)) ∧ IsQuiet literal following := by
  constructor
  · intro quiet
    refine ⟨quiet [] (c :: literal) rfl (by simp), ?_⟩
    intro skipped left split
    exact quiet (c :: skipped) left (by simp [split])
  · rintro ⟨first, quiet⟩ skipped left split inside
    cases skipped with
    | nil =>
        obtain rfl : c :: literal = left := split
        exact first
    | cons d skipped =>
        obtain ⟨-, split⟩ := List.cons.inj split
        exact quiet skipped left split inside

theorem isProper_push {c : Char} {s : Split} :
    (s.push c).IsProper ↔ ¬ BeginsToken (c :: s.written) ∧ s.IsProper := by
  cases s with
  | last literal => simp [push, IsProper, isQuiet_cons, written]
  | token literal t rest =>
      simp only [push, IsProper, isQuiet_cons, written]
      exact ⟨fun ⟨valid, ⟨first, quiet⟩, proper⟩ => ⟨first, valid, quiet, proper⟩,
        fun ⟨first, valid, quiet, proper⟩ => ⟨valid, ⟨first, quiet⟩, proper⟩⟩

end Split

/-- Characters that a token has taken are passed over. -/
theorem piecesFrom_eq_drop (skip : Nat) (cs : List Char) :
    piecesFrom skip cs = piecesFrom 0 (cs.drop skip) := by
  induction cs generalizing skip with
  | nil => simp [piecesFrom]
  | cons c rest ih =>
      cases skip with
      | zero => rfl
      | succ skip => rw [piecesFrom, ih, List.drop_succ_cons]

/-- A token that begins a text is its first piece. -/
theorem piecesFrom_written_append {t : Token} (h : t.IsGrammatical) (rest : List Char) :
    piecesFrom 0 (t.written ++ rest) = .token t :: piecesFrom 0 rest := by
  have read := read?_written_append h rest
  cases written : t.written with
  | nil => simpa [written] using t.written_length_pos
  | cons c more =>
      rw [written, List.cons_append] at read
      rw [List.cons_append, piecesFrom, read]
      simp [written, piecesFrom_eq_drop]

/-- A character with which no token begins is a piece of its own. -/
theorem piecesFrom_cons {c : Char} {rest : List Char} (h : ¬ BeginsToken (c :: rest)) :
    piecesFrom 0 (c :: rest) = .literal c :: piecesFrom 0 rest := by
  rw [piecesFrom, read?_eq_none_iff.mpr h]

namespace Split

theorem piecesFrom_append_of_isQuiet {literal following : List Char}
    (quiet : IsQuiet literal following) :
    piecesFrom 0 (literal ++ following) = literal.map .literal ++ piecesFrom 0 following := by
  induction literal with
  | nil => rfl
  | cons c literal ih =>
      obtain ⟨first, quiet⟩ := isQuiet_cons.mp quiet
      rw [List.cons_append, piecesFrom_cons first, ih quiet]
      rfl

/-- The pieces of a text are those of any proper split of it. -/
theorem piecesFrom_written {s : Split} (h : s.IsProper) : piecesFrom 0 s.written = s.pieces := by
  induction s with
  | last literal =>
      have split := piecesFrom_append_of_isQuiet h
      rw [List.append_nil] at split
      rw [written, split]
      simp [piecesFrom, pieces]
  | token literal t rest ih =>
      obtain ⟨grammatical, quiet, proper⟩ := h
      rw [written, piecesFrom_append_of_isQuiet quiet, piecesFrom_written_append grammatical,
        ih proper]
      rfl

theorem ofPieces_map_literal_append (literal : List Char) (ps : List Piece) :
    ofPieces (literal.map .literal ++ ps) = literal.foldr push (ofPieces ps) := by
  induction literal with
  | nil => rfl
  | cons c literal ih => rw [List.map_cons, List.cons_append, ofPieces, ih, List.foldr_cons]

/-- A split is known from its pieces. -/
theorem ofPieces_pieces (s : Split) : ofPieces s.pieces = s := by
  induction s with
  | last literal =>
      have pushed : literal.foldr push (.last []) = .last literal := by
        induction literal with
        | nil => rfl
        | cons c literal ih => rw [List.foldr_cons, ih, push]
      have split := ofPieces_map_literal_append literal []
      rw [List.append_nil] at split
      rw [pieces, split, ofPieces, pushed]
  | token literal t rest ih =>
      have pushed : literal.foldr push (.token [] t rest) = .token literal t rest := by
        induction literal with
        | nil => rfl
        | cons c literal ih => rw [List.foldr_cons, ih, push]
      rw [pieces, ofPieces_map_literal_append, ofPieces, ih, pushed]

/-- The pieces of a text make a proper split of it: from the left, a text either begins
with a token or with a character that no token begins with. -/
theorem ofPieces_piecesFrom (cs : List Char) :
    (ofPieces (piecesFrom 0 cs)).written = cs ∧ (ofPieces (piecesFrom 0 cs)).IsProper := by
  induction len : cs.length using Nat.strongRecOn generalizing cs with
  | _ n ih =>
      by_cases begins : BeginsToken cs
      · obtain ⟨t, grammatical, rest, rfl⟩ := begins
        have shorter : rest.length < n := by
          have := t.written_length_pos
          rw [← len, List.length_append]
          omega
        obtain ⟨whole, proper⟩ := ih _ shorter rest rfl
        rw [piecesFrom_written_append grammatical]
        exact ⟨by simp [ofPieces, written, whole], grammatical, isQuiet_nil _, proper⟩
      · cases cs with
        | nil => exact ⟨rfl, isQuiet_nil []⟩
        | cons c rest =>
            have shorter : rest.length < n := by
              rw [← len, List.length_cons]
              omega
            obtain ⟨whole, proper⟩ := ih _ shorter rest rfl
            rw [piecesFrom_cons begins, ofPieces, written_push, isProper_push, whole]
            exact ⟨rfl, begins, proper⟩

/-- Every text has exactly one proper split. -/
theorem existsUnique_isSplitOf (content : String) : ∃! s : Split, s.IsSplitOf content := by
  refine ⟨ofPieces (piecesFrom 0 content.toList), ofPieces_piecesFrom _, ?_⟩
  rintro s ⟨whole, proper⟩
  rw [← whole, piecesFrom_written proper, ofPieces_pieces]

variable {s : Split} {content : String}

theorem IsSplitOf.pieces_eq (h : s.IsSplitOf content) :
    Placeholder.pieces content = s.pieces := by
  rw [Placeholder.pieces, ← h.1, piecesFrom_written h.2]

/-- The tokens of a text are those of its split. -/
theorem IsSplitOf.tokens_eq (h : s.IsSplitOf content) : Placeholder.tokens content = s.tokens := by
  rw [Placeholder.tokens, h.pieces_eq]
  clear h
  induction s with
  | last literal => simp [Split.pieces, Split.tokens, List.filterMap_map]
  | token literal t rest ih =>
      simp [Split.pieces, Split.tokens, List.filterMap_map, ih]

theorem flatMap_shown_pieces (s : Split) (data : Record) :
    s.pieces.flatMap (Piece.shown data) = s.shown data := by
  induction s with
  | last literal => simp [pieces, shown, List.flatMap_map, Piece.shown]
  | token literal t rest ih => simp [pieces, shown, List.flatMap_map, Piece.shown, ih]

end Split

/-- Substitution has one meaning. A text has exactly one proper split; with a record of
integers that can be shown it becomes what the split shows, and the keys that it refers
to are those of the tokens of the split without repeats. -/
theorem substitute_eq_shown_split (content : String) :
    (∃! s : Split, s.IsSplitOf content) ∧
      ∀ s : Split, s.IsSplitOf content →
        (∀ data : Record, data.IsShowable →
          substitute content data = .ok (String.ofList (s.shown data))) ∧
        keys content = (s.tokens.map Token.name).eraseDups := by
  refine ⟨Split.existsUnique_isSplitOf content, fun s split => ⟨fun data showable => ?_, ?_⟩⟩
  · rw [substitute_of_isShowable showable, split.pieces_eq, Split.flatMap_shown_pieces]
  · rw [keys, firsts_eq_eraseDups, split.tokens_eq]

/-- Braces that overlap: the third brace opens the first token, and the default text of
the second one swallows what looks like a token. -/
theorem substitute_overlapping_braces :
    let content := "x\x7b\x7b\x7ba\x7d\x7d \x7b\x7bk.\x7b\x7bb\x7d\x7d"
    let data : Record := ⟨[("a", .text "\x7b\x7bb\x7d\x7d"), ("b", .text "no"), ("k", .null)]⟩
    let split : Split := .token ['x', '\x7b'] ⟨['a'], none⟩
      (.token [' '] ⟨['k'], some ['\x7b', '\x7b', 'b']⟩ (.last []))
    split.IsSplitOf content ∧ data.IsShowable ∧
      substitute content data = .ok "x\x7b\x7b\x7bb\x7d\x7d \x7b\x7bb" ∧
      keys content = ["a", "k"] := by
  intro content data split
  have proper : split.IsSplitOf content := by
    have whole : Split.ofPieces (piecesFrom 0 content.toList) = split := by decide
    exact whole ▸ Split.ofPieces_piecesFrom content.toList
  have showable : data.IsShowable := by
    simp [Record.IsShowable, data, Value.isShowable]
  obtain ⟨shown, mentioned⟩ := (substitute_eq_shown_split content).2 split proper
  exact ⟨proper, showable, shown data showable, mentioned⟩

end Stencil.Placeholder
