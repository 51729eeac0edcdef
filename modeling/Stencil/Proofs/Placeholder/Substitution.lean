/-
# What a substitution shows

A token shows the display text of a present value, and otherwise its default text or
nothing. Substitution puts these texts one after the other and fails exactly when
some token of the text meets a present value that has no text. It looks up no key but
those that the text refers to.
-/

import Stencil.Placeholder
import Stencil.Proofs.Record

namespace Stencil.Placeholder

/-- What a token shows: a null or empty value is no value. -/
def Token.shown (t : Token) (data : Record) : List Char :=
  match data.value t.name with
  | .null | .text "" => t.fallback.getD []
  | v => v.displayText.toList

/-- What a piece shows. -/
def Piece.shown (data : Record) : Piece → List Char
  | .literal c => [c]
  | .token t => t.shown data

/-- Whether a piece meets no value, or one that has a text. -/
def Piece.hasText [Machine] (data : Record) : Piece → Bool
  | .literal _ => true
  | .token t => !(data.value t.name).isPresent || (data.value t.name).hasText .token

theorem Token.shown_of_isPresent {t : Token} {data : Record}
    (h : (data.value t.name).isPresent = true) :
    t.shown data = (data.value t.name).displayText.toList := by
  unfold Token.shown
  split <;> simp_all [Value.isPresent]

theorem Token.shown_of_not_isPresent {t : Token} {data : Record}
    (h : (data.value t.name).isPresent = false) : t.shown data = t.fallback.getD [] := by
  obtain null | empty := Value.isPresent_eq_false_iff.mp h
  · simp [Token.shown, null]
  · simp [Token.shown, empty]

/-- A piece shows its text unless it meets a value that has none. -/
theorem Piece.resolve_eq_ok_iff [Machine] {p : Piece} {data : Record} {text : List Char} :
    p.resolve data = .ok text ↔ p.hasText data = true ∧ p.shown data = text := by
  cases p with
  | literal c => simp [resolve, hasText, shown]
  | token t =>
      cases present : (data.value t.name).isPresent with
      | false =>
          simp [resolve, Token.resolve, hasText, shown, present,
            Token.shown_of_not_isPresent present]
      | true =>
          simp only [resolve, Token.resolve, hasText, shown, present, if_true, Bool.not_true,
            Bool.false_or, Token.shown_of_isPresent present]
          constructor
          · intro done
            obtain ⟨own, displayed, rfl⟩ := map_eq_ok.mp done
            exact ⟨Value.hasResult_display.mp ⟨own, displayed⟩,
              congrArg String.toList (Value.eq_of_display displayed).symm⟩
          · rintro ⟨has, rfl⟩
            rw [Value.display_of_hasText has]
            rfl

/-- Pieces show their texts one after the other unless one of them has none. -/
theorem resolvePieces_eq_ok_iff [Machine] {data : Record} {ps : List Piece} {texts : List Char} :
    resolvePieces data ps = .ok texts ↔
      (∀ p ∈ ps, p.hasText data = true) ∧ ps.flatMap (Piece.shown data) = texts := by
  induction ps generalizing texts with
  | nil => simp [resolvePieces]
  | cons p rest ih =>
      rw [List.forall_mem_cons, List.flatMap_cons, resolvePieces]
      cases first : p.resolve data with
      | error failure =>
          have hasNone : ¬ p.hasText data = true := fun has => by
            cases first.symm.trans (Piece.resolve_eq_ok_iff.mpr ⟨has, rfl⟩)
          simp [hasNone]
      | ok text =>
          obtain ⟨has, rfl⟩ := Piece.resolve_eq_ok_iff.mp first
          cases others : resolvePieces data rest with
          | error failure =>
              have hasNone : ¬ ∀ p ∈ rest, p.hasText data = true := fun all => by
                cases others.symm.trans (ih.mpr ⟨all, rfl⟩)
              simp [has, hasNone]
          | ok later =>
              obtain ⟨all, rfl⟩ := ih.mp others
              simpa [has] using fun _ => all

/-- Taking the members of a list at their first places drops the repeats. -/
theorem firsts_eq_eraseDups (xs : List String) : firsts xs = xs.eraseDups := by
  have general (seen : List String) :
      xs.foldl (fun seen x => if seen.contains x then seen else seen ++ [x]) seen =
        seen ++ (xs.filter fun x => !seen.contains x).eraseDups := by
    induction xs generalizing seen with
    | nil => simp
    | cons x xs ih =>
        rw [List.foldl_cons, ih]
        by_cases known : x ∈ seen
        · simp [known]
        · have later : (xs.filter fun y => !(seen ++ [x]).contains y) =
              (xs.filter fun y => !seen.contains y).filter fun y => !y == x := by
            rw [List.filter_filter]
            apply List.filter_congr
            intro y _
            by_cases same : y = x <;> simp [same]
          simp only [List.contains_eq_mem, known, decide_false, Bool.false_eq_true, ↓reduceIte,
            Bool.not_false, List.filter_cons_of_pos, List.eraseDups_cons] at later ⊢
          rw [later, List.append_assoc, List.singleton_append]
  have unseen : (xs.filter fun x => !([] : List String).contains x) = xs := by simp
  rw [firsts, general, unseen, List.nil_append]

/-- The members at their first places are all different. -/
theorem nodup_firsts (xs : List String) : (firsts xs).Nodup := by
  have general (seen : List String) (apart : seen.Nodup) :
      (xs.foldl (fun seen x => if seen.contains x then seen else seen ++ [x]) seen).Nodup := by
    induction xs generalizing seen with
    | nil => exact apart
    | cons x xs ih =>
        rw [List.foldl_cons]
        apply ih
        by_cases known : x ∈ seen
        · simpa [known] using apart
        · simpa [known, List.nodup_append] using ⟨apart, fun y mem same => known (same ▸ mem)⟩
  exact general [] List.nodup_nil

theorem mem_firsts {xs : List String} {x : String} : x ∈ firsts xs ↔ x ∈ xs := by
  rw [firsts_eq_eraseDups, List.mem_eraseDups]

theorem mem_keys {content key : String} :
    key ∈ keys content ↔ ∃ t ∈ tokens content, t.name = key := by
  rw [keys, firsts_eq_eraseDups, List.mem_eraseDups, List.mem_map]

/-- The pieces of a text all have texts when the present values of its keys have. -/
theorem forall_hasText_iff [Machine] {content : String} {data : Record} :
    (∀ p ∈ pieces content, p.hasText data = true) ↔
      ∀ key ∈ keys content, (data.value key).isPresent = true →
        (data.value key).hasText .token = true := by
  have token (t : Token) : (Piece.token t).hasText data = true ↔
      ((data.value t.name).isPresent = true → (data.value t.name).hasText .token = true) := by
    cases present : (data.value t.name).isPresent <;> simp [Piece.hasText, present]
  simp only [mem_keys]
  constructor
  · rintro all key ⟨t, mem, rfl⟩
    obtain ⟨p, inside, read⟩ := List.mem_filterMap.mp mem
    cases p with
    | literal c => cases read
    | token u =>
        obtain rfl := Option.some.inj read
        exact (token u).mp (all _ inside)
  · intro all p inside
    cases p with
    | literal c => rfl
    | token t => exact (token t).mpr (all _ ⟨t, List.mem_filterMap.mpr ⟨_, inside, rfl⟩, rfl⟩)

/-- A text becomes what its pieces show when the present values of its keys have texts. -/
theorem substitute_of_hasText [Machine] {content : String} {data : Record}
    (has : ∀ key ∈ keys content, (data.value key).isPresent = true →
      (data.value key).hasText .token = true) :
    substitute content data =
      .ok (String.ofList ((pieces content).flatMap (Piece.shown data))) := by
  rw [substitute, resolvePieces_eq_ok_iff.mpr ⟨forall_hasText_iff.mpr has, rfl⟩]
  rfl

/-- With a record of integers that can be shown a text becomes what its pieces show. -/
theorem substitute_of_isShowable {content : String} {data : Record} (showable : data.IsShowable) :
    substitute content data =
      .ok (String.ofList ((pieces content).flatMap (Piece.shown data))) := by
  apply substitute_of_hasText
  intro key _ _
  exact showable.value key

/-- Substitution fails exactly when a key of the text has a present value without a text. -/
theorem substitute_ok_iff [Machine] {content : String} {data : Record} :
    (∃ text, substitute content data = .ok text) ↔
      ∀ key ∈ keys content, (data.value key).isPresent = true →
        (data.value key).hasText .token = true := by
  constructor
  · rintro ⟨text, done⟩
    obtain ⟨texts, resolved, -⟩ := map_eq_ok.mp done
    exact forall_hasText_iff.mp (resolvePieces_eq_ok_iff.mp resolved).1
  · exact fun has => ⟨_, substitute_of_hasText has⟩

/-- What pieces show depends on the values that their tokens meet. -/
theorem resolvePieces_congr [Machine] {ps : List Piece} {first second : Record}
    (agree : ∀ t, .token t ∈ ps → first.value t.name = second.value t.name) :
    resolvePieces first ps = resolvePieces second ps := by
  induction ps with
  | nil => rfl
  | cons p rest ih =>
      have same : p.resolve first = p.resolve second := by
        cases p with
        | literal c => rfl
        | token t => simp only [Piece.resolve, Token.resolve, agree t (by simp)]
      rw [resolvePieces, resolvePieces, same, ih fun t mem => agree t (by simp [mem])]

/-- What a text becomes depends on the values of its keys alone. -/
theorem substitute_congr [Machine] {content : String} {first second : Record}
    (agree : first.AgreesOn (keys content) second) :
    substitute content first = substitute content second := by
  rw [substitute, substitute, resolvePieces_congr]
  intro t mem
  exact agree _ (mem_keys.mpr ⟨t, List.mem_filterMap.mpr ⟨_, mem, rfl⟩, rfl⟩)

end Stencil.Placeholder
