/-
# Texts that bytes carry

A text is written in an encoding character by character, with the byte order mark as one more
character in front on request. Every encoding reads its own bytes back, whatever the characters.
The guess of the encoding is another matter, as no encoding is safe from it for every text. It is
right for the texts that begin with an ASCII character other than the null character and have some
character other than the null character in second place: their first four bytes show where
the zeros fall.
-/

import Stencil.Text.Encoding

namespace Stencil.Text

/-- The two bytes of a code unit. -/
def unitBytes (bigEndian : Bool) (unit : Nat) : List UInt8 :=
  if bigEndian then [.ofNat (unit / 256), .ofNat (unit % 256)]
  else [.ofNat (unit % 256), .ofNat (unit / 256)]

/-- The code units of a character. One beyond the first 65536 takes a pair of them. -/
def codeUnits (c : Char) : List Nat :=
  if c.toNat < 0x10000 then [c.toNat]
  else [0xD800 + (c.toNat - 0x10000) / 0x400, 0xDC00 + (c.toNat - 0x10000) % 0x400]

/-- The four bytes of a code. -/
def codeBytes (bigEndian : Bool) (code : Nat) : List UInt8 :=
  if bigEndian then unitBytes true (code / 65536) ++ unitBytes true (code % 65536)
  else unitBytes false (code % 65536) ++ unitBytes false (code / 65536)

namespace Encoding

/-- The bytes of a character. -/
def encode : Encoding → Char → List UInt8
  | .utf8, c => String.utf8EncodeChar c
  | .utf16 bigEndian, c => (codeUnits c).flatMap (unitBytes bigEndian)
  | .utf32 bigEndian, c => codeBytes bigEndian c.toNat

/-- The bytes of a text, with those of the byte order mark in front if it is to be marked. -/
def carry (encoding : Encoding) (marked : Bool) (cs : List Char) : List UInt8 :=
  (if marked then '\uFEFF' :: cs else cs).flatMap encoding.encode

end Encoding

section Characters

variable {halves : Bool} {first second third fourth b : UInt8} {code taken count : Nat}

/-- The code of a character is within range and no half of a pair. -/
theorem toNat_isScalar (c : Char) :
    c.toNat < 0x110000 ∧ ¬ (0xD800 ≤ c.toNat ∧ c.toNat ≤ 0xDFFF) := by
  have valid := c.valid
  simp only [UInt32.isValidChar, Nat.isValidChar, Char.toNat_val] at valid
  omega

theorem charOrStandIn_toNat (c : Char) : charOrStandIn c.toNat = c := by
  rw [charOrStandIn, if_neg (toNat_isScalar c).2, Char.ofNat_toNat]

/-- A byte that continues a character of several bytes. -/
structure IsTail (b : UInt8) : Prop where
  least : 0x80 ≤ b.toNat
  greatest : b.toNat ≤ 0xBF

/-- A second byte that may follow a first one. Some first bytes leave less room for it, so that
no character has two spellings, none is half of a pair and none is out of range. -/
structure MayFollow (first second : UInt8) : Prop extends IsTail second where
  afterE0 : first.toNat = 0xE0 → 0xA0 ≤ second.toNat
  afterED : first.toNat = 0xED → second.toNat ≤ 0x9F
  afterF0 : first.toNat = 0xF0 → 0x90 ≤ second.toNat
  afterF4 : first.toNat = 0xF4 → second.toNat ≤ 0x8F

theorem followCount?_eq (first : UInt8) : followCount? first =
    if first.toNat < 0x80 then some 0
    else if first.toNat < 0xC2 then none
    else if first.toNat < 0xE0 then some 1
    else if first.toNat < 0xF0 then some 2
    else if first.toNat < 0xF5 then some 3
    else none := by
  simp only [followCount?, UInt8.lt_iff_toNat_lt]
  rfl

theorem secondByteRange_of_mayFollow (follows : MayFollow first second) (halves : Bool) :
    (secondByteRange halves first).1 ≤ second ∧ second ≤ (secondByteRange halves first).2 := by
  obtain ⟨⟨least, greatest⟩, afterE0, afterED, afterF0, afterF4⟩ := follows
  unfold secondByteRange
  simp only [← UInt8.toNat_inj, UInt8.le_iff_toNat_le]
  repeat' split
  all_goals simp_all

theorem continueUtf8_of_isTail (tail : IsTail b) (rest : List UInt8) :
    continueUtf8 (count + 1) taken code (b :: rest) =
      continueUtf8 count (taken + 1) (code * 64 + b.toNat % 64) rest := by
  have continues : isContinuation b = true := by
    simp only [isContinuation, Bool.and_eq_true, decide_eq_true_eq, UInt8.le_iff_toNat_le]
    exact ⟨tail.least, tail.greatest⟩
  rw [continueUtf8, if_pos continues]

/-- A first byte is gone on from with a second byte that may follow it. -/
theorem stepUtf8_of_mayFollow (many : followCount? first = some (count + 1))
    (follows : MayFollow first second) (rest : List UInt8) :
    stepUtf8 halves (first :: second :: rest) =
      continueUtf8 count 2 (firstPart (count + 1) first * 64 + second.toNat % 64) rest := by
  have inRange := secondByteRange_of_mayFollow follows
    (halves && isHalf (first :: second :: rest))
  simp only [stepUtf8, many]
  rw [if_pos inRange, continueUtf8_of_isTail follows.toIsTail]

/-- Two bytes are read as one character. -/
theorem stepUtf8_two (least : 0xC2 ≤ first.toNat) (greatest : first.toNat ≤ 0xDF)
    (tail : IsTail second) (rest : List UInt8) :
    stepUtf8 halves (first :: second :: rest) =
      .ok (charOrStandIn (first.toNat % 0x20 * 64 + second.toNat % 64), 2) := by
  have many : followCount? first = some 1 := by
    rw [followCount?_eq, if_neg (by omega), if_neg (by omega), if_pos (by omega)]
  have follows : MayFollow first second := ⟨tail, by omega, by omega, by omega, by omega⟩
  rw [stepUtf8_of_mayFollow many follows, continueUtf8, firstPart]

/-- Three bytes are read as one character. -/
theorem stepUtf8_three (least : 0xE0 ≤ first.toNat) (greatest : first.toNat ≤ 0xEF)
    (follows : MayFollow first second) (tail : IsTail third) (rest : List UInt8) :
    stepUtf8 halves (first :: second :: third :: rest) =
      .ok (charOrStandIn ((first.toNat % 0x10 * 64 + second.toNat % 64) * 64 +
        third.toNat % 64), 3) := by
  have many : followCount? first = some 2 := by
    rw [followCount?_eq, if_neg (by omega), if_neg (by omega), if_neg (by omega),
      if_pos (by omega)]
  rw [stepUtf8_of_mayFollow many follows, continueUtf8_of_isTail tail, continueUtf8, firstPart]

/-- Four bytes are read as one character. -/
theorem stepUtf8_four (least : 0xF0 ≤ first.toNat) (greatest : first.toNat ≤ 0xF4)
    (follows : MayFollow first second) (tail : IsTail third) (last : IsTail fourth)
    (rest : List UInt8) :
    stepUtf8 halves (first :: second :: third :: fourth :: rest) =
      .ok (charOrStandIn (((first.toNat % 0x08 * 64 + second.toNat % 64) * 64 +
        third.toNat % 64) * 64 + fourth.toNat % 64), 4) := by
  have many : followCount? first = some 3 := by
    rw [followCount?_eq, if_neg (by omega), if_neg (by omega), if_neg (by omega),
      if_neg (by omega), if_pos (by omega)]
  rw [stepUtf8_of_mayFollow many follows, continueUtf8_of_isTail tail,
    continueUtf8_of_isTail last, continueUtf8, firstPart]
  all_goals simp

/-- A byte that is written as a number below 256 has this number. -/
theorem toNat_ofNat_of_lt {n : Nat} (small : n < 0x100) : (UInt8.ofNat n).toNat = n := by
  rw [UInt8.toNat_ofNat', Nat.mod_eq_of_lt small]

theorem isTail_ofNat (n : Nat) : IsTail (.ofNat (n % 0x40 + 0x80)) := by
  constructor <;> rw [toNat_ofNat_of_lt (by omega)] <;> omega

/-- The byte encoding reads the bytes of a character back. There is one case for each number of
bytes; in each of them the parts that the bytes carry add up to the code. -/
theorem stepUtf8_utf8EncodeChar (c : Char) (rest : List UInt8) :
    stepUtf8 halves (String.utf8EncodeChar c ++ rest) =
      .ok (c, (String.utf8EncodeChar c).length) := by
  obtain ⟨bounded, whole⟩ := toNat_isScalar c
  have scalar := charOrStandIn_toNat c
  have tail (n : Nat) : (UInt8.ofNat (n % 0x40 + 0x80)).toNat = n % 0x40 + 0x80 :=
    toNat_ofNat_of_lt (by omega)
  simp only [String.utf8EncodeChar, Char.toNat_val]
  split
  · have value : (UInt8.ofNat c.toNat).toNat = c.toNat := toNat_ofNat_of_lt (by omega)
    have single : followCount? (.ofNat c.toNat) = some 0 := by
      rw [followCount?_eq, value, if_pos (by omega)]
    simp only [List.cons_append, stepUtf8, single, value, scalar]
    rfl
  split
  · generalize written : UInt8.ofNat (c.toNat / 64 % 32 + 192) = first
    have lead : first.toNat = c.toNat / 64 % 32 + 192 := written ▸ toNat_ofNat_of_lt (by omega)
    have code : first.toNat % 0x20 * 64 + (c.toNat % 64 + 128) % 64 = c.toNat := by omega
    simp only [List.cons_append, List.nil_append]
    rw [stepUtf8_two (by omega) (by omega) (isTail_ofNat _), tail, code, scalar]
    rfl
  split
  · generalize written : UInt8.ofNat (c.toNat / 4096 % 16 + 224) = first
    have lead : first.toNat = c.toNat / 4096 % 16 + 224 := written ▸ toNat_ofNat_of_lt (by omega)
    have follows : MayFollow first (.ofNat (c.toNat / 64 % 64 + 128)) := by
      refine ⟨isTail_ofNat _, ?_, ?_, ?_, ?_⟩ <;> rw [tail] <;> omega
    have code : (first.toNat % 0x10 * 64 + (c.toNat / 64 % 64 + 128) % 64) * 64 +
        (c.toNat % 64 + 128) % 64 = c.toNat := by omega
    simp only [List.cons_append, List.nil_append]
    rw [stepUtf8_three (by omega) (by omega) follows (isTail_ofNat _), tail, tail, code, scalar]
    rfl
  · generalize written : UInt8.ofNat (c.toNat / 262144 % 8 + 240) = first
    have lead : first.toNat = c.toNat / 262144 % 8 + 240 := written ▸ toNat_ofNat_of_lt (by omega)
    have follows : MayFollow first (.ofNat (c.toNat / 4096 % 64 + 128)) := by
      refine ⟨isTail_ofNat _, ?_, ?_, ?_, ?_⟩ <;> rw [tail] <;> omega
    have code : ((first.toNat % 0x08 * 64 + (c.toNat / 4096 % 64 + 128) % 64) * 64 +
        (c.toNat / 64 % 64 + 128) % 64) * 64 + (c.toNat % 64 + 128) % 64 = c.toNat := by omega
    simp only [List.cons_append, List.nil_append]
    rw [stepUtf8_four (by omega) (by omega) follows (isTail_ofNat _) (isTail_ofNat _), tail, tail,
      tail, code, scalar]
    rfl

/-- The number that two bytes spell is the code unit they are written for. -/
theorem pairValue_unitBytes {unit : Nat} (small : unit < 0x10000) (bigEndian : Bool) :
    ∃ a b, unitBytes bigEndian unit = [a, b] ∧ pairValue bigEndian a b = unit := by
  have high : (UInt8.ofNat (unit / 256)).toNat = unit / 256 := toNat_ofNat_of_lt (by omega)
  have low : (UInt8.ofNat (unit % 256)).toNat = unit % 256 := toNat_ofNat_of_lt (by omega)
  cases bigEndian with
  | false =>
      refine ⟨_, _, rfl, ?_⟩
      simp only [pairValue, high, low, Bool.false_eq_true, if_false]
      omega
  | true =>
      refine ⟨_, _, rfl, ?_⟩
      simp only [pairValue, high, low, if_true]
      omega

/-- The two-byte encoding reads the bytes of a character back. -/
theorem stepUtf16_unitBytes (c : Char) (bigEndian : Bool) (rest : List UInt8) :
    stepUtf16 bigEndian ((codeUnits c).flatMap (unitBytes bigEndian) ++ rest) =
      .ok (c, ((codeUnits c).flatMap (unitBytes bigEndian)).length) := by
  obtain ⟨bounded, whole⟩ := toNat_isScalar c
  have scalar := charOrStandIn_toNat c
  unfold codeUnits
  split
  · rename_i one
    obtain ⟨a, b, written, value⟩ := pairValue_unitBytes one bigEndian
    have alone : ¬ (0xD800 ≤ c.toNat ∧ c.toNat ≤ 0xDBFF) := by omega
    simp only [List.flatMap_cons, List.flatMap_nil, written, List.append_nil, List.cons_append,
      stepUtf16, value, if_neg alone, scalar]
    rfl
  · generalize first : 0xD800 + (c.toNat - 0x10000) / 0x400 = high
    generalize second : 0xDC00 + (c.toNat - 0x10000) % 0x400 = low
    have isHigh : 0xD800 ≤ high ∧ high ≤ 0xDBFF := by omega
    have isLow : 0xDC00 ≤ low ∧ low ≤ 0xDFFF := by omega
    have smallHigh : high < 0x10000 := by omega
    have smallLow : low < 0x10000 := by omega
    obtain ⟨a, b, written, value⟩ := pairValue_unitBytes smallHigh bigEndian
    obtain ⟨c', d, written', value'⟩ := pairValue_unitBytes smallLow bigEndian
    have code : 0x10000 + (high - 0xD800) * 0x400 + (low - 0xDC00) = c.toNat := by omega
    simp only [List.flatMap_cons, List.flatMap_nil, written, written', List.append_nil,
      List.cons_append, List.nil_append, stepUtf16, value, value', if_pos isHigh, if_pos isLow,
      code, Char.ofNat_toNat]
    rfl

/-- The four-byte encoding reads the bytes of a character back. -/
theorem stepUtf32_codeBytes (c : Char) (bigEndian : Bool) (rest : List UInt8) :
    stepUtf32 bigEndian (codeBytes bigEndian c.toNat ++ rest) =
      .ok (c, (codeBytes bigEndian c.toNat).length) := by
  obtain ⟨bounded, whole⟩ := toNat_isScalar c
  have scalar := charOrStandIn_toNat c
  have smallHigh : c.toNat / 65536 < 0x10000 := by omega
  have smallLow : c.toNat % 65536 < 0x10000 := by omega
  obtain ⟨a, b, high, highValue⟩ := pairValue_unitBytes smallHigh bigEndian
  obtain ⟨a', b', low, lowValue⟩ := pairValue_unitBytes smallLow bigEndian
  have code : c.toNat / 65536 * 65536 + c.toNat % 65536 = c.toNat := by omega
  cases bigEndian with
  | false =>
      simp only [codeBytes, Bool.false_eq_true, if_false, high, low, List.cons_append,
        List.nil_append, stepUtf32, highValue, lowValue, code, if_pos bounded, scalar]
      rfl
  | true =>
      simp only [codeBytes, if_true, high, low, List.cons_append, List.nil_append, stepUtf32,
        highValue, lowValue, code, if_pos bounded, scalar]
      rfl

end Characters

section Texts

variable {halves : Bool} {cs : List Char}

namespace Encoding

/-- Every encoding reads the bytes of a character back, whatever follows them. -/
theorem step_encode (halves : Bool) (encoding : Encoding) (c : Char) (rest : List UInt8) :
    encoding.step halves (encoding.encode c ++ rest) = .ok (c, (encoding.encode c).length) := by
  cases encoding with
  | utf8 => exact stepUtf8_utf8EncodeChar c rest
  | utf16 bigEndian => exact stepUtf16_unitBytes c bigEndian rest
  | utf32 bigEndian => exact stepUtf32_codeBytes c bigEndian rest

/-- A character takes at least one byte, as no encoding reads a character of nothing. -/
theorem encode_ne_nil (encoding : Encoding) (c : Char) : encoding.encode c ≠ [] := by
  intro empty
  have read := step_encode true encoding c []
  rw [empty] at read
  cases encoding <;> cases read

end Encoding

/-- Bytes that a character has taken are passed over. -/
theorem decodeFrom_append (encoding : Encoding) (offset : Nat) (passed rest : List UInt8) :
    decodeFrom encoding halves offset passed.length (passed ++ rest) =
      decodeFrom encoding halves (offset + passed.length) 0 rest := by
  induction passed generalizing offset with
  | nil => rfl
  | cons b passed ih =>
      rw [List.cons_append, List.length_cons, decodeFrom, ih, Nat.add_assoc, Nat.add_comm 1]

/-- Every encoding reads the bytes of a text back. -/
theorem decodeFrom_flatMap_encode (encoding : Encoding) (offset : Nat) (cs : List Char) :
    decodeFrom encoding halves offset 0 (cs.flatMap encoding.encode) = .ok cs := by
  induction cs generalizing offset with
  | nil => rfl
  | cons c cs ih =>
      have read := encoding.step_encode halves c (cs.flatMap encoding.encode)
      obtain ⟨b, more, written⟩ := List.exists_cons_of_ne_nil (encoding.encode_ne_nil c)
      rw [written] at read
      rw [List.flatMap_cons, written]
      simp only [List.cons_append, decodeFrom] at read ⊢
      rw [read]
      simp only [List.length_cons, Nat.add_sub_cancel]
      rw [decodeFrom_append, ih]

/-- An ASCII character other than the null character. -/
structure IsPlain (c : Char) : Prop where
  pos : 0 < c.toNat
  lt : c.toNat < 0x80

/-- A text that shows its encoding: it has two characters at least, the first one in ASCII, and
neither of them is the null character. -/
def ShowsEncoding (cs : List Char) : Prop :=
  ∃ first second rest, cs = first :: second :: rest ∧ IsPlain first ∧ 0 < second.toNat

section Guess

variable {x y z w : UInt8} {rest : List UInt8}

/-- A byte of an ASCII character other than the null character. -/
structure IsAscii (b : UInt8) : Prop where
  pos : 0 < b.toNat
  lt : b.toNat < 0x80

/-- Such a byte is no zero and begins no mark. -/
theorem IsAscii.ne (ascii : IsAscii x) : x ≠ 0 ∧ x ≠ 0xFE ∧ x ≠ 0xFF ∧ x ≠ 0xEF := by
  obtain ⟨pos, lt⟩ := ascii
  refine ⟨?_, ?_, ?_, ?_⟩ <;> rintro rfl <;> revert pos lt <;> decide

theorem detect_of_unmarked {bytes : List UInt8}
    (unmarked : ∀ entry ∈ byteOrderMarks, entry.1.isPrefixOf bytes = false) :
    detect bytes = (detectUnmarked bytes, 0) := by
  have unmarked : byteOrderMarks.find? (fun entry => entry.1.isPrefixOf bytes) = none :=
    List.find?_eq_none.mpr fun entry mem => by simp [unmarked entry mem]
  rw [detect, unmarked]

/-- No mark begins with an ASCII character. -/
theorem detect_of_ascii_first (ascii : IsAscii x) :
    detect (x :: rest) = (detectUnmarked (x :: rest), 0) := by
  obtain ⟨notZero, notFE, notFF, notEF⟩ := ascii.ne
  refine detect_of_unmarked fun entry mem => ?_
  simp only [byteOrderMarks, List.mem_cons, List.not_mem_nil, or_false] at mem
  rcases mem with rfl | rfl | rfl | rfl | rfl <;>
    simp [List.isPrefixOf, notZero.symm, notFE.symm, notFF.symm, notEF.symm]

theorem detect_of_ascii (ascii : IsAscii x) (other : y ≠ 0) :
    detect (x :: y :: rest) = (.utf8, 0) := by
  rw [detect_of_ascii_first ascii]
  match rest with
  | [] | [_] | _ :: _ :: _ => simp [detectUnmarked, ascii.ne.1, other]

theorem detect_of_zero_second (ascii : IsAscii x) (other : z ≠ 0 ∨ w ≠ 0) :
    detect (x :: 0 :: z :: w :: rest) = (.utf16 false, 0) := by
  rw [detect_of_ascii_first ascii, detectUnmarked, if_neg ascii.ne.1, if_pos rfl, if_pos other]

theorem detect_of_zeros_last (ascii : IsAscii x) :
    detect (x :: 0 :: 0 :: 0 :: rest) = (.utf32 false, 0) := by
  rw [detect_of_ascii_first ascii, detectUnmarked, if_neg ascii.ne.1]
  rfl

theorem detect_of_zero_first (ascii : IsAscii y) :
    detect (0 :: y :: z :: w :: rest) = (.utf16 true, 0) := by
  have notZero := ascii.ne.1
  have unmarked : ∀ entry ∈ byteOrderMarks,
      entry.1.isPrefixOf (0 :: y :: z :: w :: rest) = false := by
    intro entry mem
    simp only [byteOrderMarks, List.mem_cons, List.not_mem_nil, or_false] at mem
    rcases mem with rfl | rfl | rfl | rfl | rfl <;> simp [List.isPrefixOf, notZero.symm]
  rw [detect_of_unmarked unmarked, detectUnmarked, if_pos rfl, if_pos notZero]

/-- The mark of the two-byte encoding is no mark of the four-byte one if two zeros do not follow
it. -/
theorem detect_of_mark (other : z ≠ 0 ∨ w ≠ 0) :
    detect (0xFF :: 0xFE :: z :: w :: rest) = (.utf16 false, 2) := by
  have short : ([0xFF, 0xFE, 0x00, 0x00] : List UInt8).isPrefixOf
      (0xFF :: 0xFE :: z :: w :: rest) = false := by
    rcases other with other | other <;> simp [List.isPrefixOf, other.symm]
  rw [detect, byteOrderMarks, List.find?_cons_of_neg (by simp [List.isPrefixOf]),
    List.find?_cons_of_neg (by simp only [short, Bool.false_eq_true, not_false_eq_true])]
  rfl

end Guess

variable {c : Char}

namespace IsPlain

theorem isAscii (plain : IsPlain c) : IsAscii (.ofNat c.toNat) := by
  obtain ⟨pos, lt⟩ := plain
  constructor <;> rw [toNat_ofNat_of_lt (by omega)] <;> assumption

/-- The bytes of an ASCII character are its code and otherwise zeros. -/
theorem encode_eq (plain : IsPlain c) :
    Encoding.utf8.encode c = [.ofNat c.toNat] ∧
      (Encoding.utf16 false).encode c = [.ofNat c.toNat, 0] ∧
      (Encoding.utf16 true).encode c = [0, .ofNat c.toNat] ∧
      (Encoding.utf32 false).encode c = [.ofNat c.toNat, 0, 0, 0] ∧
      (Encoding.utf32 true).encode c = [0, 0, 0, .ofNat c.toNat] := by
  have lt := plain.lt
  have single : c.toNat ≤ 0x7F := by omega
  have one : c.toNat < 0x10000 := by omega
  have upper : c.toNat / 65536 = 0 := by omega
  have lower : c.toNat % 65536 = c.toNat := by omega
  have high : c.toNat / 256 = 0 := by omega
  have low : c.toNat % 256 = c.toNat := by omega
  simp [Encoding.encode, String.utf8EncodeChar, codeUnits, codeBytes, unitBytes, Char.toNat_val,
    single, one, upper, lower, high, low]

end IsPlain

/-- The bytes of no character begin those of another one. -/
theorem Encoding.eq_of_isPrefix {encoding : Encoding} {c d : Char}
    (begins : encoding.encode c <+: encoding.encode d) : c = d := by
  obtain ⟨more, written⟩ := begins
  have read := encoding.step_encode true c more
  have readWhole := encoding.step_encode true d []
  rw [written] at read
  rw [List.append_nil, read] at readWhole
  exact congrArg Prod.fst (Except.ok.inj readWhole)

theorem ne_null_of_pos (pos : 0 < c.toNat) : '\x00' ≠ c := by
  rintro rfl
  exact absurd pos (by decide)

/-- The first byte of a character in the byte encoding is zero for the null character alone. -/
theorem exists_encode_utf8 (pos : 0 < c.toNat) :
    ∃ y bytes, Encoding.utf8.encode c = y :: bytes ∧ y ≠ 0 := by
  obtain ⟨y, bytes, written⟩ := List.exists_cons_of_ne_nil (Encoding.utf8.encode_ne_nil c)
  refine ⟨y, bytes, written, ?_⟩
  rintro rfl
  have begins : Encoding.utf8.encode '\x00' <+: Encoding.utf8.encode c :=
    ⟨bytes, by rw [written]; rfl⟩
  exact ne_null_of_pos pos (Encoding.eq_of_isPrefix begins)

/-- The first two bytes of a character in the two-byte encoding are zeros for the null character
alone. -/
theorem exists_encode_utf16 (pos : 0 < c.toNat) (bigEndian : Bool) :
    ∃ z w bytes, (Encoding.utf16 bigEndian).encode c = z :: w :: bytes ∧ (z ≠ 0 ∨ w ≠ 0) := by
  have read := (Encoding.utf16 bigEndian).step_encode true c []
  match written : (Encoding.utf16 bigEndian).encode c with
  | [] | [_] => rw [written] at read; cases read
  | z :: w :: bytes =>
      refine ⟨z, w, bytes, rfl, Decidable.not_and_iff_not_or_not.mp ?_⟩
      rintro ⟨rfl, rfl⟩
      have begins : (Encoding.utf16 bigEndian).encode '\x00' <+:
          (Encoding.utf16 bigEndian).encode c :=
        ⟨bytes, by rw [written]; cases bigEndian <;> rfl⟩
      exact ne_null_of_pos pos (Encoding.eq_of_isPrefix begins)

/-- The encoding of a text that shows it is guessed right, with the length of the mark. -/
theorem detect_carry (shows : ShowsEncoding cs) (encoding : Encoding) (marked : Bool) :
    detect (encoding.carry marked cs) =
      (encoding, if marked then (encoding.encode '\uFEFF').length else 0) := by
  obtain ⟨first, second, more, rfl, plain, other⟩ := shows
  obtain ⟨utf8, little, big, littleWide, bigWide⟩ := plain.encode_eq
  have isAscii := plain.isAscii
  cases marked with
  | false =>
      simp only [Encoding.carry, Bool.false_eq_true, if_false, List.flatMap_cons]
      cases encoding with
      | utf8 =>
          obtain ⟨y, bytes, written, notZero⟩ := exists_encode_utf8 other
          rw [utf8, written]
          exact detect_of_ascii isAscii notZero
      | utf16 bigEndian =>
          obtain ⟨z, w, bytes, written, notZero⟩ := exists_encode_utf16 other bigEndian
          rw [written]
          cases bigEndian with
          | false => rw [little]; exact detect_of_zero_second isAscii notZero
          | true => rw [big]; exact detect_of_zero_first isAscii
      | utf32 bigEndian =>
          cases bigEndian with
          | false => rw [littleWide]; exact detect_of_zeros_last isAscii
          | true => rw [bigWide]; rfl
  | true =>
      simp only [Encoding.carry, if_true, List.flatMap_cons]
      cases encoding with
      | utf8 => rfl
      | utf16 bigEndian =>
          cases bigEndian with
          | false => rw [little]; exact detect_of_mark (.inl isAscii.ne.1)
          | true => rfl
      | utf32 bigEndian => cases bigEndian <;> rfl

/-- A text that shows its encoding is read back from its bytes, in every encoding, marked or not. -/
theorem decodeDetected_carry (shows : ShowsEncoding cs) (encoding : Encoding) (marked : Bool) :
    decodeDetected (encoding.carry marked cs) = .ok cs := by
  have unmarked : (encoding.carry marked cs).drop
      (if marked then (encoding.encode '\uFEFF').length else 0) = cs.flatMap encoding.encode := by
    cases marked with
    | false => rfl
    | true => exact List.drop_left
  rw [decodeDetected, detect_carry shows]
  simp only [unmarked]
  exact decodeFrom_flatMap_encode encoding _ cs

/-- A null character in second place takes the byte encoding for the two-byte one. -/
example : (decodeDetected (Encoding.utf8.carry false ['a', '\x00', 'b', 'c'])).toOption =
    some ['a', '\u6362'] := by
  decide

end Texts

end Stencil.Text
