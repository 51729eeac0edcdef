/-
# Texts carried by bytes

A text may be carried in any of five encodings, with or without a byte order mark.
The encoding is guessed from the mark, or from the places of the zero bytes among
the first four. A code unit that ought to be one half of a pair and stands alone is
tolerated on request, and then the machine has a character that stands for it.
-/

import Stencil.Machine

namespace Stencil.Text

/-- How characters are turned into bytes. -/
inductive Encoding
  | utf8
  | utf16 (bigEndian : Bool)
  | utf32 (bigEndian : Bool)
  deriving DecidableEq, Repr

/-- The name of an encoding in messages. -/
def Encoding.name : Encoding → String
  | .utf8 => "utf-8"
  | .utf16 false => "utf-16-le"
  | .utf16 true => "utf-16-be"
  | .utf32 false => "utf-32-le"
  | .utf32 true => "utf-32-be"

/-- Why bytes do not decode. -/
inductive DecodeCause
  | invalidStart
  | invalidContinuation
  | unexpectedEnd
  | truncated
  | outOfRange
  deriving DecidableEq, Repr

/-- The wording of a cause. -/
def DecodeCause.wording : DecodeCause → String
  | .invalidStart => "invalid start byte"
  | .invalidContinuation => "invalid continuation byte"
  | .unexpectedEnd => "unexpected end of data"
  | .truncated => "truncated data"
  | .outOfRange => "code point not in range(0x110000)"

/-- Bytes that do not decode: the cause, where they begin and what they are. -/
structure DecodeError where
  encoding : Encoding
  cause : DecodeCause
  offset : Nat
  bytes : List UInt8
  deriving DecidableEq, Repr

/-- A byte as two hexadecimal digits. -/
def byteHex (b : UInt8) : String :=
  String.ofList [Nat.digitChar (b.toNat / 16), Nat.digitChar (b.toNat % 16)]

/-- The message of an error. -/
def DecodeError.message (e : DecodeError) : String :=
  let place :=
    match e.bytes with
    | [b] => "byte 0x" ++ byteHex b ++ " in position " ++ toString e.offset
    | bytes => "bytes in position " ++ toString e.offset ++ "-" ++
        toString (e.offset + bytes.length - 1)
  "'" ++ e.encoding.name ++ "' codec can't decode " ++ place ++ ": " ++ e.cause.wording

/-- A decoding step gives a character and how many bytes it takes, or a cause and
how many bytes are at fault. -/
abbrev DecodeStep := Except (DecodeCause × Nat) (Char × Nat)

/-- Whether a byte continues a character of several bytes. -/
def isContinuation (b : UInt8) : Bool := 0x80 ≤ b && b ≤ 0xBF

/-- The character of a code, or what stands for it if it is half of a pair. -/
def charOrStandIn [Machine] (code : Nat) : Char :=
  if 0xD800 ≤ code ∧ code ≤ 0xDFFF then Machine.standIn code else Char.ofNat code

/-- The least and the greatest second byte after a given first byte. -/
def secondByteRange (halves : Bool) (first : UInt8) : UInt8 × UInt8 :=
  if first = 0xE0 then (0xA0, 0xBF)
  else if first = 0xED ∧ ¬ halves then (0x80, 0x9F)
  else if first = 0xF0 then (0x90, 0xBF)
  else if first = 0xF4 then (0x80, 0x8F)
  else (0x80, 0xBF)

/-- How many bytes follow a first byte, if it may be one. -/
def followCount? (first : UInt8) : Option Nat :=
  if first < 0x80 then some 0
  else if first < 0xC2 then none
  else if first < 0xE0 then some 1
  else if first < 0xF0 then some 2
  else if first < 0xF5 then some 3
  else none

/-- The part of a code that the first byte carries. -/
def firstPart (count : Nat) (first : UInt8) : Nat :=
  match count with
  | 0 => first.toNat
  | 1 => first.toNat % 0x20
  | 2 => first.toNat % 0x10
  | _ => first.toNat % 0x08

/-- Collects continuation bytes: `count` more are wanted and `taken` bytes have been
read. -/
def continueUtf8 [Machine] : Nat → Nat → Nat → List UInt8 → DecodeStep
  | 0, taken, code, _ => .ok (charOrStandIn code, taken)
  | _ + 1, taken, _, [] => .error (.unexpectedEnd, taken)
  | count + 1, taken, code, b :: rest =>
    if isContinuation b then continueUtf8 count (taken + 1) (code * 64 + b.toNat % 64) rest
    else .error (.invalidContinuation, taken)

/-- Whether the first three bytes spell half of a pair. -/
def isHalf : List UInt8 → Bool
  | first :: second :: third :: _ =>
    first == 0xED && 0xA0 ≤ second && second ≤ 0xBF && isContinuation third
  | _ => false

/-- Decodes one character of the byte encoding. -/
def stepUtf8 [Machine] (halves : Bool) : List UInt8 → DecodeStep
  | [] => .error (.unexpectedEnd, 0)
  | first :: rest =>
    match followCount? first with
    | none => .error (.invalidStart, 1)
    | some count =>
      let (least, greatest) := secondByteRange (halves && isHalf (first :: rest)) first
      match count, rest with
      | 0, _ => .ok (charOrStandIn first.toNat, 1)
      | count + 1, second :: _ =>
        if least ≤ second ∧ second ≤ greatest then
          continueUtf8 (count + 1) 1 (firstPart (count + 1) first) rest
        else .error (.invalidContinuation, 1)
      | _ + 1, [] => .error (.unexpectedEnd, 1)

/-- The number that two bytes spell. -/
def pairValue (bigEndian : Bool) (a b : UInt8) : Nat :=
  if bigEndian then a.toNat * 256 + b.toNat else b.toNat * 256 + a.toNat

/-- Decodes one character of the two-byte encoding. -/
def stepUtf16 [Machine] (bigEndian : Bool) : List UInt8 → DecodeStep
  | a :: b :: rest =>
    let unit := pairValue bigEndian a b
    let alone : DecodeStep := .ok (charOrStandIn unit, 2)
    if 0xD800 ≤ unit ∧ unit ≤ 0xDBFF then
      match rest with
      | c :: d :: _ =>
        let low := pairValue bigEndian c d
        if 0xDC00 ≤ low ∧ low ≤ 0xDFFF then
          .ok (Char.ofNat (0x10000 + (unit - 0xD800) * 0x400 + (low - 0xDC00)), 4)
        else alone
      | _ => alone
    else alone
  | rest => .error (.truncated, rest.length)

/-- Decodes one character of the four-byte encoding. -/
def stepUtf32 [Machine] (bigEndian : Bool) : List UInt8 → DecodeStep
  | a :: b :: c :: d :: _ =>
    let code :=
      if bigEndian then pairValue true a b * 65536 + pairValue true c d
      else pairValue false c d * 65536 + pairValue false a b
    if code < 0x110000 then .ok (charOrStandIn code, 4) else .error (.outOfRange, 4)
  | rest => .error (.truncated, rest.length)

/-- Decodes one character. -/
def Encoding.step [Machine] (halves : Bool) : Encoding → List UInt8 → DecodeStep
  | .utf8 => stepUtf8 halves
  | .utf16 bigEndian => stepUtf16 bigEndian
  | .utf32 bigEndian => stepUtf32 bigEndian

/-- Decodes bytes that begin at an offset, after passing over `skip` bytes that the
character before has taken. -/
def decodeFrom [Machine] (encoding : Encoding) (halves : Bool) (offset : Nat) :
    Nat → List UInt8 → Except DecodeError (List Char)
  | _, [] => .ok []
  | skip + 1, _ :: rest => decodeFrom encoding halves (offset + 1) skip rest
  | 0, b :: rest =>
    match encoding.step halves (b :: rest) with
    | .error (cause, count) => .error ⟨encoding, cause, offset, (b :: rest).take count⟩
    | .ok (c, width) =>
      match decodeFrom encoding halves (offset + 1) (width - 1) rest with
      | .ok cs => .ok (c :: cs)
      | .error e => .error e

/-- The marks that bytes may begin with. The mark of the two-byte encoding is itself the
beginning of one of the four-byte encoding, so the latter come first. -/
def byteOrderMarks : List (List UInt8 × Encoding) :=
  [([0x00, 0x00, 0xFE, 0xFF], .utf32 true), ([0xFF, 0xFE, 0x00, 0x00], .utf32 false),
    ([0xFE, 0xFF], .utf16 true), ([0xFF, 0xFE], .utf16 false), ([0xEF, 0xBB, 0xBF], .utf8)]

/-- The encoding of bytes without a mark, by the zeros among the first of them. -/
def detectUnmarked : List UInt8 → Encoding
  | a :: b :: c :: d :: _ =>
    if a = 0 then if b ≠ 0 then .utf16 true else .utf32 true
    else if b = 0 then if c ≠ 0 ∨ d ≠ 0 then .utf16 false else .utf32 false
    else .utf8
  | [a, b] => if a = 0 then .utf16 true else if b = 0 then .utf16 false else .utf8
  | _ => .utf8

/-- The encoding of bytes and the length of the mark in front. -/
def detect (bytes : List UInt8) : Encoding × Nat :=
  match byteOrderMarks.find? fun entry => entry.1.isPrefixOf bytes with
  | some (mark, encoding) => (encoding, mark.length)
  | none => (detectUnmarked bytes, 0)

/-- Decodes bytes in the encoding they show. Offsets count from the first byte,
or from the end of the mark in the byte encoding. -/
def decodeDetected [Machine] (bytes : List UInt8) : Except DecodeError (List Char) :=
  let (encoding, mark) := detect bytes
  let start := if encoding = .utf8 then 0 else mark
  decodeFrom encoding true start 0 (bytes.drop mark)

/-- Decodes bytes of the byte encoding, in which no half of a pair may stand. -/
def decodeStrict [Machine] (bytes : List UInt8) : Except DecodeError (List Char) :=
  decodeFrom .utf8 false 0 0 bytes

/-- A text with every line end as a single line feed. -/
def unifyLineEnds : List Char → List Char
  | [] => []
  | '\r' :: '\n' :: rest => '\n' :: unifyLineEnds rest
  | '\r' :: rest => '\n' :: unifyLineEnds rest
  | c :: rest => c :: unifyLineEnds rest

end Stencil.Text
