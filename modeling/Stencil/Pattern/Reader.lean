/-
# Reading patterns

A pattern is read from its tokens, where a backslash and the character after it are
one token. Most faults make the text no pattern at all; a repetition beyond all
bounds is refused.
-/

import Stencil.Number.Numeral
import Stencil.Pattern.Refusal
import Stencil.Pattern.Syntax
import Stencil.Text.CharacterName
import Stencil.Text.Identifier

namespace Stencil.Pattern

/-- Why a text is not read as a pattern. -/
inductive Fault
  | invalid
  | refused (refusal : Refusal)
  deriving DecidableEq, Repr

/-- A character, or a character after a backslash. -/
inductive Token
  | plain (c : Char)
  | escape (c : Char)
  deriving DecidableEq, Repr

/-- The tokens of a text, and whether a backslash is left over at its end. -/
def Token.ofChars : List Char → List Token × Bool
  | [] => ([], false)
  | ['\\'] => ([], true)
  | '\\' :: c :: rest =>
    let (tokens, dangling) := ofChars rest
    (.escape c :: tokens, dangling)
  | c :: rest =>
    let (tokens, dangling) := ofChars rest
    (.plain c :: tokens, dangling)

/-- The characters of a token. -/
def Token.chars : Token → List Char
  | .plain c => [c]
  | .escape c => ['\\', c]

/-- How far reading has come: the tokens left, the global options, the names of
groups, the width of each group that is closed (the whole pattern counts as group
zero and stays open), the count of groups outside the part that looks behind, and
the groups that conditions refer to by number. -/
structure Progress where
  tokens : List Token
  dangling : Bool
  flags : Flags
  names : List (List Char × Nat)
  widths : List (Option Width)
  outside : Option Nat
  numbered : List Nat

/-- A step of reading. -/
abbrev Reading := StateT Progress (Except Fault)

/-- Ends reading: the text is no pattern. -/
def invalid {α : Type} : Reading α := throw .invalid

/-- The token in front. -/
def peek : Reading (Option Token) := do return (← get).tokens.head?

/-- Passes over the token in front. A backslash that is left over is found out as
soon as it comes to the front. -/
def advance : Reading Unit := do
  let progress ← get
  let rest := progress.tokens.tail
  if rest.isEmpty && progress.dangling then invalid
  else set { progress with tokens := rest }

/-- Takes the token in front. -/
def next : Reading (Option Token) := do
  let token ← peek
  advance
  return token

/-- Passes over a character if it is in front. -/
def accept (c : Char) : Reading Bool := do
  if (← peek) == some (.plain c) then
    advance
    return true
  else return false

/-- Passes over a character that has to be in front. -/
def expect (c : Char) : Reading Unit := do
  unless ← accept c do invalid

/-- Takes at most `count` characters of a class. -/
def takeUpTo (isMember : Char → Bool) : Nat → Reading (List Char)
  | 0 => return []
  | count + 1 => do
    match ← peek with
    | some (.plain c) =>
      if isMember c then
        advance
        return c :: (← takeUpTo isMember count)
      else return []
    | _ => return []

/-- Takes the text up to a closing character, which is passed over. The text may not
be empty. -/
def takeUntil (closing : Char) : Nat → List Char → Reading (List Char)
  | 0, _ => invalid
  | fuel + 1, taken => do
    match ← next with
    | none => invalid
    | some token =>
      if token == .plain closing then
        if taken.isEmpty then invalid else return taken
      else takeUntil closing fuel (taken ++ token.chars)

/-- Takes the name up to a closing character. -/
def takeName (closing : Char) : Reading (List Char) := do
  takeUntil closing ((← get).tokens.length + 1) []

/-- Whether a character is an octal digit. -/
def isOctal (c : Char) : Bool := '0' ≤ c && c ≤ '7'

/-- Whether a character is a hexadecimal digit. -/
def isHex (c : Char) : Bool :=
  c.isDigit || ('a' ≤ c && c ≤ 'f') || ('A' ≤ c && c ≤ 'F')

/-- The value of digits in a base up to sixteen. -/
def baseValue (base : Nat) (cs : List Char) : Nat :=
  cs.foldl (fun value c =>
    let digit :=
      if c.isDigit then c.toNat - '0'.toNat
      else if 'a' ≤ c then c.toNat - 'a'.toNat + 10
      else c.toNat - 'A'.toNat + 10
    value * base + digit) 0

/-- Reads exactly `count` hexadecimal digits as a code point. -/
def hexCode (count : Nat) : Reading Nat := do
  let digits ← takeUpTo isHex count
  let code := baseValue 16 digits
  if digits.length == count && code < 0x110000 then return code else invalid

/-- Reads a character name in braces. -/
def namedCode : Reading Nat := do
  expect '\x7b'
  match Text.CharacterName.find? (← takeName '\x7d') with
  | some code => return code
  | none => invalid

/-- The control characters that have a letter as their escape. -/
def controlCode? : Char → Option Nat
  | 'a' => some 7
  | 'f' => some 12
  | 'n' => some 10
  | 'r' => some 13
  | 't' => some 9
  | 'v' => some 11
  | '\\' => some 92
  | _ => none

/-- The classes that have a letter as their escape; a capital letter stands for the
characters outside the class. -/
def category? : Char → Option SetItem
  | 'd' => some (.category .digit false)
  | 'D' => some (.category .digit true)
  | 's' => some (.category .space false)
  | 'S' => some (.category .space true)
  | 'w' => some (.category .word false)
  | 'W' => some (.category .word true)
  | _ => none

/-- The places that have a letter as their escape. -/
def anchor? : Char → Option Anchor
  | 'A' => some .textStart
  | 'Z' => some .textEnd
  | 'b' => some .boundary
  | 'B' => some .noBoundary
  | _ => none

/-- Reads the rest of an escape that spells a code point, if it is one. -/
def spelledCode? (c : Char) : Reading (Option Nat) := do
  match c with
  | 'x' => return some (← hexCode 2)
  | 'u' => return some (← hexCode 4)
  | 'U' => return some (← hexCode 8)
  | 'N' => return some (← namedCode)
  | _ => return controlCode? c

/-- An octal escape may not go beyond one byte. -/
def octalCode (digits : List Char) : Reading Nat :=
  let code := baseValue 8 digits
  if code ≤ 0xFF then return code else invalid

/-- Reads the rest of an escape in a set. -/
def setEscape (c : Char) : Reading SetItem := do
  if let some item := category? c then return item
  if c == 'b' then return .char 8
  if let some code ← spelledCode? c then return .char code
  if isOctal c then return .char (← octalCode (c :: (← takeUpTo isOctal 2)))
  if c.isAlphanum then invalid
  return .char c.toNat

/-- Whether a group is closed. -/
def isClosed (group : Nat) : Reading Bool := do
  return (((← get).widths[group]?).bind id).isSome

/-- A part that looks behind may only refer to groups closed outside of it. -/
def checkOutside (group : Nat) : Reading Unit := do
  if let some count := (← get).outside then
    unless (← isClosed group) && group < count do invalid

/-- A reference to a group that is closed. -/
def reference (group : Nat) : Reading Node := do
  unless ← isClosed group do invalid
  checkOutside group
  return .backreference group

/-- Reads the rest of an escape that begins with a digit other than zero: three octal
digits spell a code point, anything else refers to a group. -/
def numberEscape (first : Char) : Reading Node := do
  match ← peek with
  | some (.plain second) =>
    if second.isDigit then
      advance
      if isOctal first && isOctal second then
        if let [third] ← takeUpTo isOctal 1 then
          return .char (← octalCode [first, second, third])
      reference (baseValue 10 [first, second])
    else reference (baseValue 10 [first])
  | _ => reference (baseValue 10 [first])

/-- Reads the rest of an escape outside of sets. -/
def escapeNode (c : Char) : Reading Node := do
  if let some place := anchor? c then return .anchor place
  if let some item := category? c then return .set false [item]
  if let some code ← spelledCode? c then return .char code
  if c == '0' then return .char (baseValue 8 (← takeUpTo isOctal 2))
  if c.isDigit then return ← numberEscape c
  if c.isAlpha then invalid
  return .char c.toNat

/-- Reads one character or class of a set. -/
def setMember : Token → Reading SetItem
  | .escape c => setEscape c
  | .plain c => return .char c.toNat

/-- Reads the members of a set up to its closing bracket, which counts as a member
when it comes first. -/
def setMembers : Nat → List SetItem → Reading (List SetItem)
  | 0, _ => invalid
  | fuel + 1, taken => do
    match ← next with
    | none => invalid
    | some token =>
      if token == .plain ']' && !taken.isEmpty then return taken
      else
        let first ← setMember token
        if ← accept '-' then
          match ← next with
          | none => invalid
          | some (.plain ']') => return taken ++ [first, .char '-'.toNat]
          | some last =>
            match first, ← setMember last with
            | .char low, .char high =>
              if high < low then invalid
              else setMembers fuel (taken ++ [.range low high])
            | _, _ => invalid
        else setMembers fuel (taken ++ [first])

/-- The members of a list without repeats, at their first places. -/
def distinct (items : List SetItem) : List SetItem :=
  items.foldl (fun seen item => if seen.contains item then seen else seen ++ [item]) []

/-- Reads a set after its opening bracket. -/
def setNode : Reading Node := do
  let negated ← accept '^'
  let items := distinct (← setMembers ((← get).tokens.length + 1) [])
  match items with
  | [.char code] => return if negated then .notChar code else .char code
  | items => return .set negated items

/-- The greatest count of a repetition, and one more than the greatest that may be
written. -/
def repeatBound : Nat := 0xFFFFFFFF

/-- The count that digits spell. -/
def repeatCount (digits : List Char) : Reading Nat := do
  if 4300 < digits.length then throw (.refused (.repeatTooLong digits.length))
  let count := baseValue 10 digits
  if repeatBound ≤ count then throw (.refused .repeatTooLarge)
  return count

/-- Reads the counts of a repetition after its opening brace. Braces that hold
anything else stand for themselves, and nothing is taken. -/
def repeatCounts? : Reading (Option (Nat × Option Nat)) := do
  let start ← get
  if start.tokens.head? == some (.plain '\x7d') then return none
  let low ← takeUpTo Char.isDigit start.tokens.length
  let high ← if ← accept ',' then takeUpTo Char.isDigit start.tokens.length else pure low
  unless ← accept '\x7d' do
    set start
    return none
  let least ← if low.isEmpty then pure 0 else repeatCount low
  if high.isEmpty then return some (least, none)
  let greatest ← repeatCount high
  if greatest < least then invalid
  return some (least, some greatest)

/-- Reads how a repetition tries its counts. -/
def greed : Reading Greed := do
  if ← accept '?' then return .lazy
  if ← accept '+' then return .possessive
  return .greedy

/-- What is repeated when a node is: a group that neither captures nor changes
options is dissolved. -/
def Node.dissolved : Node → List Node
  | .group none add drop body =>
    if add = .empty ∧ drop = .empty then body else [.group none add drop body]
  | node => [node]

/-- A sequence that was read in reverse. -/
def inOrder (before : List Node) : List Node := before.reverse.flatMap Node.dissolved

/-- Whether a node may be repeated: there is no repeating of places and
repetitions. -/
def Node.isRepeatable : Node → Bool
  | .anchor _ => false
  | .repeated .. => false
  | _ => true

/-- Repeats the last node of a reversed sequence. -/
def repeatLast (least : Nat) (greatest : Option Nat) : List Node → Reading (List Node)
  | [] => invalid
  | last :: before => do
    unless last.isRepeatable do invalid
    return .repeated (← greed) least greatest last.dissolved :: before

/-- The option of a letter. -/
def flag? : Char → Option Flags
  | 'i' => some { Flags.empty with ignoreCase := true }
  | 'm' => some { Flags.empty with multiline := true }
  | 's' => some { Flags.empty with dotAll := true }
  | 'x' => some { Flags.empty with verbose := true }
  | 'a' => some { Flags.empty with ascii := true }
  | 'u' => some { Flags.empty with unicode := true }
  | 't' => some { Flags.empty with template := true }
  | _ => none

/-- Takes the character in front. -/
def nextChar : Reading Char := do
  match ← next with
  | some (.plain c) => return c
  | _ => invalid

/-- Reads the letters of options to add, of which `c` is the first, and gives them
with the character that ends them. -/
def addedFlags : Nat → Char → Flags → Reading (Flags × Char)
  | 0, _, _ => invalid
  | fuel + 1, c, flags => do
    match flag? c with
    | none => invalid
    | some flag =>
      let flags := flags.union flag
      if flags.ascii && flags.unicode then invalid
      let c ← nextChar
      if c == ')' || c == '-' || c == ':' then return (flags, c)
      addedFlags fuel c flags

/-- Reads the letters of options to drop, of which `c` is the first, up to a
colon. -/
def droppedFlags : Nat → Char → Flags → Reading Flags
  | 0, _, _ => invalid
  | fuel + 1, c, flags => do
    match flag? c with
    | none => invalid
    | some flag =>
      if flag.ascii || flag.unicode then invalid
      let c ← nextChar
      if c == ':' then return flags.union flag
      droppedFlags fuel c (flags.union flag)

/-- Reads options after their first character. Options for the whole pattern are
recorded at once; options for a group are given back, those to add first. -/
def flagGroup? (c : Char) : Reading (Option (Flags × Flags)) := do
  let fuel := (← get).tokens.length + 1
  let (add, ending) ← if c == '-' then pure (Flags.empty, '-') else addedFlags fuel c .empty
  if ending == ')' then
    modify fun progress => { progress with flags := progress.flags.union add }
    return none
  if add.template then invalid
  let drop ← if ending == '-' then droppedFlags fuel (← nextChar) .empty else pure Flags.empty
  if drop.template || add.meets drop then invalid
  return some (add, drop)

/-- Opens a group, which may have a name of its own. -/
def openGroup (name : Option (List Char)) : Reading Nat := do
  let progress ← get
  let index := progress.widths.length
  let names ←
    match name with
    | none => pure progress.names
    | some name =>
      if (progress.names.lookup name).isSome then invalid
      else pure ((name, index) :: progress.names)
  set { progress with widths := progress.widths ++ [none], names }
  return index

/-- Closes a group. -/
def closeGroup (index : Nat) (body : List Node) : Reading Unit :=
  modify fun progress =>
    { progress with
      widths := progress.widths.set index (some (sequenceWidth progress.widths body)) }

/-- The group of a name. -/
def namedGroup (name : List Char) : Reading Nat := do
  match (← get).names.lookup name with
  | some index => return index
  | none => invalid

/-- Whether a name has the form of an identifier. -/
def isName (name : List Char) : Bool := Text.isIdentifier (name.map Char.toNat)

/-- The number that a condition refers to a group by. -/
def groupNumber? (name : List Char) : Option Nat :=
  let (negative, unsigned) :=
    Numeral.splitSign ((Text.trimBlank name).map Numeral.basicDigit)
  (Numeral.joinDigits? false unsigned).bind fun digits =>
    if digits.isEmpty || !digits.all Char.isDigit || 4300 < digits.length then none
    else
      let number := Numeral.digitsValue digits
      if number = 0 || negative || 1073741823 ≤ number then none else some number

/-- Reads what a condition refers to. -/
def conditionGroup : Reading Nat := do
  let name ← takeName ')'
  if isName name then namedGroup name
  else
    match groupNumber? name with
    | none => invalid
    | some number =>
      modify fun progress => { progress with numbered := number :: progress.numbered }
      return number

/-- Passes over a comment in a group. -/
def skipComment : Nat → Reading Unit
  | 0 => invalid
  | fuel + 1 => do
    match ← next with
    | none => invalid
    | some token => unless token == .plain ')' do skipComment fuel

/-- Passes over a comment that ends with the line. -/
def skipLine : Nat → Reading Unit
  | 0 => invalid
  | fuel + 1 => do
    match ← next with
    | none => return ()
    | some token => unless token == .plain '\n' do skipLine fuel

/-- Whether a character is passed over in verbose patterns. -/
def isVerboseGap (c : Char) : Bool :=
  c == ' ' || c == '\t' || c == '\n' || c == '\r' || c == '\x0b' || c == '\x0c'

/-- Whether equal nodes of this form stand for the same thing. -/
def Node.isPlain : Node → Bool
  | .char _ | .notChar _ | .any | .set .. | .anchor _ | .backreference _ => true
  | _ => false

/-- Splits the nodes that all branches begin with from the branches. -/
def commonFront : List Node → List (List Node) → List Node × List (List Node)
  | [], others => ([], [] :: others)
  | node :: rest, others =>
    if node.isPlain && others.all (·.head? == some node) then
      let (front, branches) := commonFront rest (others.map List.tail)
      (node :: front, branches)
    else ([], (node :: rest) :: others)

/-- The set of characters that a branch of one node matches. -/
def branchItems? : List Node → Option (List SetItem)
  | [.char code] => some [.char code]
  | [.set false items] => some items
  | _ => none

/-- A choice between branches. What they have in common is moved in front, and a
choice between single characters is a set. -/
def choiceOf : List (List Node) → List Node
  | [] => []
  | [only] => only
  | first :: others =>
    let (front, branches) := commonFront first others
    match branches.mapM branchItems? with
    | some items => front ++ [.set false (distinct items.flatten)]
    | none => front ++ [.choice branches]

/-- What follows the opening of a group. -/
inductive Opening
  | capture (name : Option (List Char))
  | plain (add drop : Flags)
  | atomic
  | look (behind negated : Bool)
  | condition
  | complete (node : Option Node)
  | globalFlags

/-- Reads the opening of a group after its parenthesis. Some groups are complete with
it. -/
def opening : Reading Opening := do
  unless ← accept '?' do return .capture none
  match ← nextChar with
  | 'P' =>
    if ← accept '<' then
      let name ← takeName '>'
      if isName name then return .capture (some name) else invalid
    else if ← accept '=' then
      let name ← takeName ')'
      if isName name then return .complete (some (← reference (← namedGroup name)))
      else invalid
    else invalid
  | ':' => return .plain .empty .empty
  | '#' =>
    skipComment ((← get).tokens.length + 1)
    return .complete none
  | '=' => return .look false false
  | '!' => return .look false true
  | '<' =>
    match ← nextChar with
    | '=' => return .look true false
    | '!' => return .look true true
    | _ => invalid
  | '(' => return .condition
  | '>' => return .atomic
  | c =>
    match ← flagGroup? c with
    | none => return .globalFlags
    | some (add, drop) => return .plain add drop

mutual

/-- Reads a choice between sequences. `top` says that it is not inside a group. -/
def readChoice (fuel : Nat) (verbose top : Bool) : Reading (List Node) :=
  match fuel with
  | 0 => invalid
  | fuel + 1 => do return choiceOf (← readBranches fuel verbose top true)

/-- Reads the branches of a choice. -/
def readBranches (fuel : Nat) (verbose top first : Bool) : Reading (List (List Node)) :=
  match fuel with
  | 0 => invalid
  | fuel + 1 => do
    let branch ← readSequence fuel verbose (top && first) []
    if ← accept '|' then
      let flags := (← get).flags
      return branch :: (← readBranches fuel (if top then flags.verbose else verbose) top false)
    else return [branch]

/-- Reads a sequence, given the nodes before in reverse. Options for the whole
pattern may stand at its start when `first` says that it starts the pattern. -/
def readSequence (fuel : Nat) (verbose first : Bool) (before : List Node) :
    Reading (List Node) :=
  match fuel with
  | 0 => invalid
  | fuel + 1 => do
    match ← peek with
    | none => return inOrder before
    | some (.plain '|') => return inOrder before
    | some (.plain ')') => return inOrder before
    | some (.escape c) =>
      advance
      readSequence fuel verbose first ((← escapeNode c) :: before)
    | some (.plain c) =>
      advance
      if verbose && isVerboseGap c then readSequence fuel verbose first before
      else if verbose && c == '#' then
        skipLine ((← get).tokens.length + 1)
        readSequence fuel verbose first before
      else
        match c with
        | '[' =>
          readSequence fuel verbose first ((← setNode) :: before)
        | '?' => readSequence fuel verbose first (← repeatLast 0 (some 1) before)
        | '*' => readSequence fuel verbose first (← repeatLast 0 none before)
        | '+' => readSequence fuel verbose first (← repeatLast 1 none before)
        | '\x7b' =>
          match ← repeatCounts? with
          | none => readSequence fuel verbose first (.char c.toNat :: before)
          | some (least, greatest) =>
            readSequence fuel verbose first (← repeatLast least greatest before)
        | '.' => readSequence fuel verbose first (.any :: before)
        | '^' => readSequence fuel verbose first (.anchor .lineStart :: before)
        | '$' => readSequence fuel verbose first (.anchor .lineEnd :: before)
        | '(' =>
          match ← opening with
          | .globalFlags =>
            unless first && before.isEmpty do invalid
            readSequence fuel (← get).flags.verbose first before
          | .complete node => readSequence fuel verbose first (node.toList ++ before)
          | opening =>
            readSequence fuel verbose first ((← readGroup fuel verbose opening) :: before)
        | c => readSequence fuel verbose first (.char c.toNat :: before)

/-- Reads the rest of a group. -/
def readGroup (fuel : Nat) (verbose : Bool) (opening : Opening) : Reading Node :=
  match fuel with
  | 0 => invalid
  | fuel + 1 =>
    match opening with
    | .capture name => do
      let index ← openGroup name
      let body ← readChoice fuel verbose false
      expect ')'
      closeGroup index body
      return .group (some index) .empty .empty body
    | .plain add drop => do
      let body ← readChoice fuel ((verbose || add.verbose) && !drop.verbose) false
      expect ')'
      return .group none add drop body
    | .atomic => do
      let body ← readChoice fuel verbose false
      expect ')'
      return .atomic body
    | .look behind negated => do
      let outside := (← get).outside
      if behind && outside.isNone then
        modify fun progress => { progress with outside := some progress.widths.length }
      let body ← readChoice fuel verbose false
      if behind && outside.isNone then
        modify fun progress => { progress with outside := none }
      expect ')'
      let width := sequenceWidth (← get).widths body
      return .look (if behind then some width else none) negated body
    | .condition => do
      let group ← conditionGroup
      checkOutside group
      let yes ← readSequence fuel verbose false []
      if ← accept '|' then
        let no ← readSequence fuel verbose false []
        expect ')'
        return .conditional group yes (some no)
      else
        expect ')'
        return .conditional group yes none
    | _ => invalid

end

/-- Reads the tokens of a whole pattern. -/
def readWhole (text : List Char) : Except Fault Expression := do
  let (tokens, dangling) := Token.ofChars text
  if tokens.isEmpty && dangling then throw .invalid
  let start : Progress := ⟨tokens, dangling, .empty, [], [none], none, []⟩
  let (body, progress) ← (readChoice (4 * tokens.length + 8) false true).run start
  if progress.flags.ascii && progress.flags.unicode then throw (.refused .flagsClash)
  let flags := { progress.flags with unicode := !progress.flags.ascii }
  if !progress.tokens.isEmpty then throw .invalid
  if progress.numbered.any fun group => progress.widths.length ≤ group then throw .invalid
  unless sequenceEverywhere (Node.isSound flags.template) body do throw .invalid
  unless sequenceEverywhere Node.looksNear body do throw (.refused .looksTooFar)
  return ⟨flags, body, sequenceWidth progress.widths body⟩

/-- What a text is as a pattern. -/
inductive Outcome
  | pattern (p : Expression)
  | noPattern
  | refused (refusal : Refusal)

/-- Reads a text as a pattern. -/
def read (text : String) : Outcome :=
  match readWhole text.toList with
  | .ok p => .pattern p
  | .error .invalid => .noPattern
  | .error (.refused refusal) => .refused refusal

end Stencil.Pattern
