/-
# Placeholders

A text may refer to data by tokens: a key in double braces, with an optional default
text after a point. A text is split once, from the left, into single characters and
tokens; what is put in place of a token is never looked at again.
-/

import Stencil.Text.UpperCase
import Stencil.Value.Display

namespace Stencil.Placeholder

/-- A reference to a key, with the text to show when the key has no value. -/
structure Token where
  key : List Char
  fallback : Option (List Char)
  deriving DecidableEq, Repr

/-- A piece of a text: a character that stands for itself, or a token. -/
inductive Piece
  | literal (c : Char)
  | token (t : Token)
  deriving DecidableEq, Repr

/-- Whether a character may stand in a key. -/
def isKeyChar (c : Char) : Bool := c.isAlphanum || c == '_'

/-- The written form of a token. -/
def Token.written (t : Token) : List Char :=
  '\x7b' :: '\x7b' :: (t.key ++
    (match t.fallback with
      | none => []
      | some text => '.' :: text) ++ ['\x7d', '\x7d'])

/-- Reads the token that starts a text. -/
def Token.read? : List Char → Option Token
  | '\x7b' :: '\x7b' :: rest =>
    match rest.takeWhile isKeyChar, rest.dropWhile isKeyChar with
    | [], _ => none
    | key, '\x7d' :: '\x7d' :: _ => some ⟨key, none⟩
    | key, '.' :: more =>
      match more.takeWhile (· ≠ '\x7d'), more.dropWhile (· ≠ '\x7d') with
      | [], _ => none
      | text, '\x7d' :: '\x7d' :: _ => some ⟨key, some text⟩
      | _, _ => none
    | _, _ => none
  | _ => none

/-- Splits a text into pieces, after passing over `skip` characters that the token
before has taken. -/
def piecesFrom : Nat → List Char → List Piece
  | _, [] => []
  | skip + 1, _ :: rest => piecesFrom skip rest
  | 0, c :: rest =>
    match Token.read? (c :: rest) with
    | some t => .token t :: piecesFrom (t.written.length - 1) rest
    | none => .literal c :: piecesFrom 0 rest

/-- The pieces of a text. -/
def pieces (s : String) : List Piece := piecesFrom 0 s.toList

/-- The tokens of a text in order. -/
def tokens (s : String) : List Token :=
  (pieces s).filterMap fun
    | .token t => some t
    | .literal _ => none

/-- The key of a token. -/
def Token.name (t : Token) : String := String.ofList t.key

/-- What a token shows: the display text of a present value, or else its default
text. -/
def Token.resolve [Machine] (t : Token) (data : Record) : Except Failure (List Char) :=
  let v := data.value t.name
  if v.isPresent then (v.display .token).map String.toList
  else .ok (t.fallback.getD [])

/-- What a piece shows. -/
def Piece.resolve [Machine] (data : Record) : Piece → Except Failure (List Char)
  | .literal c => .ok [c]
  | .token t => t.resolve data

/-- What pieces show one after the other. -/
def resolvePieces [Machine] (data : Record) : List Piece → Except Failure (List Char)
  | [] => .ok []
  | p :: rest =>
    match p.resolve data with
    | .error failure => .error failure
    | .ok text =>
      match resolvePieces data rest with
      | .error failure => .error failure
      | .ok texts => .ok (text ++ texts)

/-- A text with its tokens replaced by what they show. -/
def substitute [Machine] (content : String) (data : Record) : Except Failure String :=
  (resolvePieces data (pieces content)).map String.ofList

/-- A text that may be missing, with its tokens replaced. -/
def substituteOptional [Machine] (content : Option String) (data : Record) :
    Except Failure String :=
  substitute (content.getD "") data

/-- The members of a list without repeats, at their first places. -/
def firsts {α : Type} [BEq α] (xs : List α) : List α :=
  xs.foldl (fun seen x => if seen.contains x then seen else seen ++ [x]) []

/-- The keys that a text refers to, without repeats, in order of first mention. -/
def keys (content : String) : List String :=
  firsts ((tokens content).map Token.name)

/-- The label of a key: its first character in upper case, and a space in front of
every further capital letter. -/
def label (key : String) : String :=
  match key.toList with
  | [] => ""
  | first :: rest =>
    String.ofList (Text.upperChar first ++
      rest.flatMap fun c => if c.isUpper then [' ', c] else [c])

end Stencil.Placeholder
