/-
# Reading values as attributes

Each attribute of a document has a type, and a value is read as that type where it
has an obvious meaning there: a numeral as a number, the words of a boolean as a
boolean. Texts and lists are never made from anything else.
-/

import Stencil.Number.Numeral
import Stencil.Schema.Checked

namespace Stencil.Schema

/-- Reads a text. -/
def readText : Value → Checked String
  | .text s => .accepted s
  | _ => .refuse .notText

/-- Reads a number. A boolean counts as one or zero. -/
def readNumber : Value → Checked Binary64
  | .float x => .accepted x
  | .int i =>
    let x := Binary64.ofInt i
    if x.isFinite then .accepted x else .refuse .notNumber
  | .bool b => .accepted (Binary64.ofInt (if b then 1 else 0))
  | .text s =>
    match Numeral.readAttribute? s with
    | some x => .accepted x
    | none => .refuse .notNumeral
  | _ => .refuse .notNumber

/-- The words for a boolean, in lower case. -/
def booleanWords : List (String × Bool) :=
  [("0", false), ("off", false), ("f", false), ("false", false), ("n", false), ("no", false),
   ("1", true), ("on", true), ("t", true), ("true", true), ("y", true), ("yes", true)]

/-- Whether an integer fits into 64 bits with a sign. -/
def fits64 (i : Int) : Bool := -0x8000000000000000 ≤ i && i < 0x8000000000000000

/-- Reads the integers zero and one as booleans. -/
def booleanOfInt (i : Int) : Checked Bool :=
  if i = 0 then .accepted false
  else if i = 1 then .accepted true
  else if fits64 i then .refuse .notBooleanWord
  else .refuse .notBoolean

/-- Reads an integer from a number; only whole numbers between the bounds of 64 bits
count. -/
def integerOfNumber (x : Binary64) : Checked Int :=
  match x with
  | .nan => .refuse .notFinite
  | .infinite _ => .refuse .notFinite
  | .finite .. =>
    match x.toInt? with
    | none => .refuse .notWhole
    | some i =>
      if i.natAbs < 0x8000000000000000 then .accepted i else .refuse .integerTooLarge

/-- Reads a boolean. -/
def readBoolean : Value → Checked Bool
  | .bool b => .accepted b
  | .int i => booleanOfInt i
  | .float x =>
    match integerOfNumber x with
    | .accepted i => booleanOfInt i
    | .refused _ => .refuse .notBoolean
  | .text s =>
    match booleanWords.lookup (s.map Char.toLower) with
    | some b => .accepted b
    | none => .refuse .notBooleanWord
  | _ => .refuse .notBoolean

/-- A text without the zeros in front of a numeral. Low lines may stand among the zeros,
and a sign behind them. The last of the zeros stays when nothing or a point follows. -/
def stripLeadingZeros? (cs : List Char) : Option (List Char) :=
  let starts (c : Char) : Bool := c == '-' || (c.isDigit && c ≠ '0')
  match cs with
  | '0' :: rest =>
    let isFiller (c : Char) : Bool := c == '0' || c == '_'
    let last := (rest.takeWhile isFiller).getLast?.getD '0'
    match rest.dropWhile isFiller with
    | [] => some [last]
    | '.' :: fraction => some (last :: '.' :: fraction)
    | c :: more => if starts c then some (c :: more) else none
  | c :: rest => if starts c then some (c :: rest) else none
  | [] => none

/-- A text without a point that nothing but zeros follow. -/
def stripZeroFraction (cs : List Char) : List Char :=
  match cs.dropWhile (· ≠ '.') with
  | '.' :: '0' :: zeros => if zeros.all (· = '0') then cs.takeWhile (· ≠ '.') else cs
  | _ => cs

/-- A text without the low lines inside it. -/
def stripLines (cs : List Char) : List Char :=
  if Numeral.hasStrayLine cs then cs else cs.filter (· ≠ '_')

/-- A text without a plus sign in front. Nothing else may be a sign then. -/
def stripPlus? : List Char → Option (List Char)
  | '+' :: '-' :: _ => none
  | '+' :: rest => some rest
  | cs => some cs

/-- The plain numeral that a text stands for: without blanks around it, a plus sign,
zeros in front, a fraction of zeros and low lines between digits. -/
def plainNumeral? (s : String) : Option (List Char) :=
  ((stripPlus? (Text.trimBlank s.toList)).bind stripLeadingZeros?).map fun cs =>
    stripLines (stripZeroFraction cs)

/-- Reads a plain numeral: a minus sign and digits, the first of which is a zero only if
it is the only one. A numeral of more than 4300 characters is too large, whatever
follows it. -/
def integerOfPlain (cs : List Char) : Checked Int :=
  let (isNegative, unsigned) : Bool × List Char := match cs with
    | '-' :: rest => (true, rest)
    | _ => (false, cs)
  let digits := unsigned.takeWhile Char.isDigit
  if digits.head? = some '0' ∧ 1 < digits.length then .refuse .notIntegerNumeral
  else if 4300 < digits.length + isNegative.toNat then .refuse .integerTooLarge
  else if digits = [] ∨ digits.length < unsigned.length then .refuse .notIntegerNumeral
  else
    let magnitude : Int := Numeral.digitsValue digits
    .accepted (if isNegative then -magnitude else magnitude)

/-- Reads an integer from a text. -/
def integerOfText (s : String) : Checked Int :=
  match plainNumeral? s with
  | none => .refuse .notIntegerNumeral
  | some cs => integerOfPlain cs

/-- Reads an integer. -/
def readInteger : Value → Checked Int
  | .int i => .accepted i
  | .bool b => .accepted (if b then 1 else 0)
  | .float x => integerOfNumber x
  | .text s => integerOfText s
  | _ => .refuse .notInteger

/-- Reads one of several names. -/
def readChoice {α : Type} (choices : List (String × α)) : Value → Checked α
  | .text s =>
    match choices.lookup s with
    | some a => .accepted a
    | none => .refuse (.notOneOf (choices.map (·.1)))
  | _ => .refuse (.notOneOf (choices.map (·.1)))

/-- Reads a list. -/
def readList {α : Type} (read : Value → Checked α) : Value → Checked (List α)
  | .list items => Checked.items read 0 items
  | _ => .refuse .notList

/-- Reads a value that may be null. -/
def readNullable {α : Type} (read : Value → Checked α) : Value → Checked (Option α)
  | .null => .accepted none
  | v => some <$> read v

/-- The two names of an attribute: the one in stored documents and the plain one. -/
structure Name where
  stored : String
  plain : String
  deriving DecidableEq, Repr

/-- An attribute that has one name only. -/
def Name.same (name : String) : Name := ⟨name, name⟩

/-- The value of an attribute with the name it goes by. The stored name comes before
the plain one. -/
def attribute? (entries : List (String × Value)) (name : Name) : Option (String × Value) :=
  match entries.lookup name.stored with
  | some v => some (name.stored, v)
  | none => (entries.lookup name.plain).map fun v => (name.plain, v)

/-- Reads an attribute that has to be there. -/
def required {α : Type} (entries : List (String × Value)) (name : Name)
    (read : Value → Checked α) : Checked α :=
  match attribute? entries name with
  | some (key, v) => (read v).within (.key key)
  | none => .refused [⟨[.key name.stored], .missing⟩]

/-- Reads an attribute that has a default. -/
def defaulted {α : Type} (entries : List (String × Value)) (name : Name) (absent : α)
    (read : Value → Checked α) : Checked α :=
  match attribute? entries name with
  | some (key, v) => (read v).within (.key key)
  | none => .accepted absent

/-- Reads an attribute that may be null or absent. -/
def optional {α : Type} (entries : List (String × Value)) (name : Name)
    (read : Value → Checked α) : Checked (Option α) :=
  defaulted entries name none (readNullable read)

/-- Reads a model from the entries of an object. -/
def readModel {α : Type} (model : String) (read : List (String × Value) → Checked α) :
    Value → Checked α
  | .object entries => read entries
  | _ => .refuse (.notObject model)

end Stencil.Schema
