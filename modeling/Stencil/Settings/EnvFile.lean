/-
# Environment files

An environment file gives values to names, one statement after the other. A name may
stand in single quotes and a value in quotes of either kind; a value in quotes may go
over several lines. Values refer to the environment and to earlier names by a dollar
sign and braces. A statement that cannot be read is passed over up to the end of its
line.
-/

import Stencil.Text.Blank

namespace Stencil.EnvFile

/-- Whether a character is blank. -/
def isSpace (c : Char) : Bool := Text.isPatternSpace c.toNat

/-- Whether a character is blank and does not end a line. -/
def isGap (c : Char) : Bool := isSpace c && c ≠ '\n'

/-- A reader of the rest of a file. A reader that fails tells where. -/
abbrev Reading := StateT (List Char) (Except (List Char))

/-- Fails where the reader is. -/
def fail {α : Type} : Reading α := fun cs => .error cs

/-- Takes the characters of a kind. -/
def takeAll (isMember : Char → Bool) : Reading (List Char) := fun cs =>
  .ok (cs.takeWhile isMember, cs.dropWhile isMember)

/-- Passes over the word that may stand in front of a name. -/
def skipExport : Reading Unit := fun cs =>
  match cs with
  | 'e' :: 'x' :: 'p' :: 'o' :: 'r' :: 't' :: rest =>
    if rest.head?.any isGap then .ok ((), rest.dropWhile isGap) else .ok ((), cs)
  | _ => .ok ((), cs)

/-- Reads a name. A comment has none. -/
def name : Reading (Option String) := fun cs =>
  match cs with
  | '#' :: _ => .ok (none, cs)
  | '\'' :: rest =>
    match rest.takeWhile (· ≠ '\''), rest.dropWhile (· ≠ '\'') with
    | c :: inside, _ :: left => .ok (some (String.ofList (c :: inside)), left)
    | _, _ => .error cs
  | _ =>
    let isMember (c : Char) : Bool := c ≠ '=' && c ≠ '#' && !isSpace c
    match cs.takeWhile isMember with
    | [] => .error cs
    | found => .ok (some (String.ofList found), cs.dropWhile isMember)

/-- Splits a text behind its opening quote at the closing one. A character behind a
backslash closes nothing. -/
def splitQuoted (mark : Char) : Bool → List Char → Option (List Char × List Char)
  | _, [] => none
  | isEscaped, c :: rest =>
    if !isEscaped && c == mark then some ([], rest)
    else (splitQuoted mark (!isEscaped && c == '\\') rest).map fun (inside, left) =>
      (c :: inside, left)

/-- What a backslash and a character stand for in double quotes. -/
def doubleEscape? : Char → Option Char
  | '\\' => some '\\'
  | '\'' => some '\''
  | '"' => some '"'
  | 'a' => some '\x07'
  | 'b' => some '\x08'
  | 'f' => some '\x0c'
  | 'n' => some '\n'
  | 'r' => some '\r'
  | 't' => some '\t'
  | 'v' => some '\x0b'
  | _ => none

/-- What a backslash and a character stand for in single quotes. -/
def singleEscape? : Char → Option Char
  | '\\' => some '\\'
  | '\'' => some '\''
  | _ => none

/-- A text with its escapes replaced. -/
def unescape (escape? : Char → Option Char) : List Char → List Char
  | [] => []
  | [c] => [c]
  | c :: next :: rest =>
    match c, escape? next with
    | '\\', some meant => meant :: unescape escape? rest
    | _, _ => c :: unescape escape? (next :: rest)

/-- Reads a value in quotes. -/
def quotedValue (mark : Char) (escape? : Char → Option Char) : Reading String := fun cs =>
  match splitQuoted mark false cs.tail with
  | none => .error cs
  | some (inside, left) => .ok (String.ofList (unescape escape? inside), left)

/-- A line up to the blanks in front of its comment. -/
def cutComment : List Char → List Char
  | [] => []
  | c :: rest =>
    if isSpace c && ((c :: rest).dropWhile isSpace).head? == some '#' then []
    else c :: cutComment rest

/-- Reads a value without quotes, which goes to the end of its line. -/
def plainValue : Reading String := do
  let line ← takeAll (· ≠ '\n')
  return String.ofList ((cutComment line).reverse.dropWhile isSpace).reverse

/-- Reads a value behind its equals sign. A number sign right behind the sign belongs to
the value; behind blanks it starts a comment. -/
def value : Reading String := do
  let gap ← takeAll isGap
  match (← get).head? with
  | some '\'' => quotedValue '\'' singleEscape?
  | some '"' => quotedValue '"' doubleEscape?
  | some '#' => if gap.isEmpty then plainValue else pure ""
  | _ => plainValue

/-- Reads a comment, if there is one, and the end of the line. -/
def lineEnd : Reading Unit := do
  match (← get).dropWhile isGap with
  | '#' :: comment => set (comment.dropWhile (· ≠ '\n'))
  | _ => pure ()
  match (← get).dropWhile isGap with
  | [] => set ([] : List Char)
  | '\n' :: rest => set rest
  | _ => fail

/-- A name with its value. A name without a value hides earlier values. -/
abbrev Entry := String × Option String

/-- Reads a statement, if there is one left. -/
def statement : Reading (Option Entry) := do
  let _ ← takeAll isSpace
  if (← get).isEmpty then return none
  skipExport
  let name? ← name
  let _ ← takeAll isGap
  let value? ← match ← get with
    | '=' :: rest => do
      set rest
      some <$> value
    | _ => pure none
  lineEnd
  return name?.map fun found => (found, value?)

/-- Reads the entries from some place on. Every statement takes a character, so a file has
no more statements than characters. -/
def entriesFrom : Nat → List Char → List Entry
  | 0, _ => []
  | _, [] => []
  | fuel + 1, cs =>
    match statement.run cs with
    | .ok (found?, left) => found?.toList ++ entriesFrom fuel left
    | .error stuck => entriesFrom fuel (stuck.dropWhile (· ≠ '\n')).tail

/-- Reads the entries of a file in order. -/
def entries (cs : List Char) : List Entry := entriesFrom cs.length cs

/-- A reference to a name, with a text for when it has no value. -/
structure Reference where
  name : List Char
  fallback : Option (List Char)

/-- Reads the reference that starts a text, with its length. -/
def reference? : List Char → Option (Reference × Nat)
  | '$' :: '\x7b' :: rest =>
    let isMember (c : Char) : Bool := c ≠ '\x7d' && c ≠ ':'
    let found := rest.takeWhile isMember
    match rest.dropWhile isMember with
    | '\x7d' :: _ => some (⟨found, none⟩, found.length + 3)
    | ':' :: '-' :: more =>
      let text := more.takeWhile (· ≠ '\x7d')
      match more.dropWhile (· ≠ '\x7d') with
      | [] => none
      | _ :: _ => some (⟨found, some text⟩, found.length + text.length + 5)
    | _ => none
  | _ => none

/-- A text with its references resolved, after passing over `skip` characters. -/
def resolveFrom (look : String → Option (Option String)) : Nat → List Char → List Char
  | _, [] => []
  | skip + 1, _ :: rest => resolveFrom look skip rest
  | 0, c :: rest =>
    match reference? (c :: rest) with
    | none => c :: resolveFrom look 0 rest
    | some (r, length) =>
      let shown := match look (String.ofList r.name) with
        | some known => (known.getD "").toList
        | none => r.fallback.getD []
      shown ++ resolveFrom look (length - 1) rest

/-- Stores an entry; a name keeps its place. -/
def store (entry : Entry) : List Entry → List Entry
  | [] => [entry]
  | (found, old) :: rest =>
    if found = entry.1 then entry :: rest else (found, old) :: store entry rest

/-- Resolves the entries of a file one after the other. Earlier names of the file come
before the environment. -/
def resolve (environment : List (String × String)) (entries : List Entry) : List Entry :=
  entries.foldl (fun resolved entry =>
    let look (wanted : String) : Option (Option String) :=
      (resolved.lookup wanted).or ((environment.lookup wanted).map some)
    store (entry.1, entry.2.map fun text => String.ofList (resolveFrom look 0 text.toList))
      resolved) []

end Stencil.EnvFile
