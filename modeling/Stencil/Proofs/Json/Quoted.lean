/-
# Texts in a document

A quoted text holds an escape for every character that cannot stand for itself. The
reader takes each escape back to its character and goes on behind it, so the inside of
a quoted text is read as the text, up to the closing quote.
-/

import Stencil.Json.Printer
import Stencil.Json.Reader

namespace Stencil.Json

/-- Four hexadecimal digits with something behind them are read as their code unit. -/
theorem codeUnit?_hexPadded {n : Nat} (small : n < 0x20) {tail : List Char} (more : tail ≠ []) :
    codeUnit? (Text.hexPadded 4 n ++ tail) = some n := by
  have length : ∀ n, n < 0x20 → (Text.hexPadded 4 n).length = 4 := by decide
  have read : ∀ n, n < 0x20 → codeUnit? (Text.hexPadded 4 n ++ ['"']) = some n := by decide
  have four := length n small
  have value := read n small
  obtain ⟨next, tail, rfl⟩ := List.exists_cons_of_ne_nil more
  match digits : Text.hexPadded 4 n, four with
  | [a, b, c, d], _ =>
      rw [digits] at value
      exact value

section Reading

variable {opening after tail body left : List Char} {c : Char}

/-- An escape is read as its character, and reading goes on behind it. -/
theorem textBody_escape [Machine] {width : Nat} (nonempty : after ≠ [])
    (escape : escape after = .ok (c, width))
    (read : textBody opening width after = .ok (body, left)) :
    textBody opening 0 ('\\' :: after) = .ok (c :: body, left) := by
  simp [textBody, nonempty, escape, read]

/-- Characters that an escape has taken are passed over. -/
theorem textBody_skip [Machine] (taken : List Char) :
    textBody opening taken.length (taken ++ tail) = textBody opening 0 tail := by
  induction taken with
  | nil => rfl
  | cons c taken ih => rw [List.length_cons, List.cons_append, textBody, ih]

/-- The reader takes a control character back from its code. -/
theorem textBody_hexPadded [Machine] (control : c.toNat < 0x20) (more : tail ≠ [])
    (read : textBody opening 0 tail = .ok (body, left)) :
    textBody opening 0 ('\\' :: 'u' :: (Text.hexPadded 4 c.toNat ++ tail)) =
      .ok (c :: body, left) := by
  have length : ∀ n, n < 0x20 → ('u' :: Text.hexPadded 4 n).length = 5 := by decide
  have unit := codeUnit?_hexPadded control more
  have escape : escape ('u' :: (Text.hexPadded 4 c.toNat ++ tail)) = .ok (c, 5) := by
    have low : ¬ (0xD800 ≤ c.toNat ∧ c.toNat ≤ 0xDBFF) := by omega
    have high : ¬ (0xDC00 ≤ c.toNat ∧ c.toNat ≤ 0xDFFF) := by omega
    simp only [Json.escape, unit, low, high, if_false, Char.ofNat_toNat]
  apply textBody_escape (by simp) escape
  rw [← length c.toNat control, ← List.cons_append, textBody_skip, read]

/-- The reader takes an escape back to its character. -/
theorem textBody_escaped_append [Machine] (c : Char) (more : tail ≠ [])
    (read : textBody opening 0 tail = .ok (body, left)) :
    textBody opening 0 (escaped c ++ tail) = .ok (c :: body, left) := by
  have simple (letter : Char) (escape : ∀ tail, escape (letter :: tail) = .ok (c, 1)) :
      textBody opening 0 ('\\' :: letter :: tail) = .ok (c :: body, left) :=
    textBody_escape (by simp) (escape tail) ((textBody_skip [letter]).trans read)
  rw [escaped]
  split
  · rename_i same
    exact simple '"' fun _ => by rw [same]; rfl
  split
  · rename_i same
    exact simple '\\' fun _ => by rw [same]; rfl
  split
  · rename_i same
    exact simple 'b' fun _ => by rw [same]; rfl
  split
  · rename_i same
    exact simple 'f' fun _ => by rw [same]; rfl
  split
  · rename_i same
    exact simple 'n' fun _ => by rw [same]; rfl
  split
  · rename_i same
    exact simple 'r' fun _ => by rw [same]; rfl
  split
  · rename_i same
    exact simple 't' fun _ => by rw [same]; rfl
  split
  · rename_i control
    exact textBody_hexPadded control more read
  · rename_i quote backslash _ _ _ _ _ control
    simp [textBody, quote, backslash, control, read]

end Reading

/-- The inside of a quoted text is read as the text. -/
theorem textBody_append [Machine] (opening rest cs : List Char) :
    textBody opening 0 (cs.flatMap escaped ++ '"' :: rest) = .ok (cs, rest) := by
  induction cs with
  | nil => simp [textBody]
  | cons c cs ih =>
      rw [List.flatMap_cons, List.append_assoc]
      exact textBody_escaped_append c (by simp) ih

end Stencil.Json
