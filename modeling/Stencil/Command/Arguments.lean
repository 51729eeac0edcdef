/-
# Command line arguments

The command takes options only. A long option may be cut short while it stays
distinct, and its value follows it or is attached by an equals sign. Exactly one
source has to be named. All arguments are told apart before any option is carried
out, and options are carried out in order.
-/

import Stencil.Text.DecimalDigit
import Stencil.Text.Quoted

namespace Stencil.Command

/-- The options of the command. -/
inductive Switch
  | help | template | default | schema | data | noDefaults | logDirectory
  deriving DecidableEq, Repr

namespace Switch

/-- The spellings of all options. -/
def spellings : List (String × Switch) :=
  [("-h", .help), ("--help", .help), ("--template", .template), ("--default", .default),
   ("--schema", .schema), ("--data", .data), ("--no-defaults", .noDefaults),
   ("--log-dir", .logDirectory)]

/-- The name of an option in messages. -/
def name (o : Switch) : String :=
  "/".intercalate ((spellings.filter fun (_, other) => other = o).map (·.1))

/-- Whether an option takes a value. -/
def takesValue : Switch → Bool
  | .template | .default | .data | .logDirectory => true
  | _ => false

/-- The options that name a source, of which one has to be given. -/
def sources : List Switch := [.template, .default, .schema]

end Switch

/-- Why the arguments are not run. -/
inductive Stop
  | helpWanted
  | misuse (message : String)
  deriving DecidableEq, Repr

/-- A misuse of an option. -/
def Switch.misuse (o : Switch) (message : String) : Stop :=
  .misuse ("argument " ++ o.name ++ ": " ++ message)

/-- What is attached to an option: nothing, or a text after an equals sign. A short
option may also be followed by letters straight away; after an equals sign they count
as well. -/
inductive Attachment
  | nothing
  | value (text : String)
  | letters (cs : List Char)
  deriving DecidableEq, Repr

/-- What an argument is: an option with what is attached to it, an unknown option, the
mark that ends the options, or a plain argument. -/
inductive Word
  | option (o : Switch) (attachment : Attachment)
  | unknown (argument : String)
  | endMark
  | plain (argument : String)
  deriving DecidableEq, Repr

/-- Whether a text is a negative numeral. A line end may follow it. -/
def isNegativeNumeral : List Char → Bool
  | '-' :: rest =>
    let body := if rest.getLast? = some '\n' then rest.dropLast else rest
    let isDigit (c : Char) : Bool := Text.isDecimalDigit c.toNat
    match body.dropWhile isDigit with
    | [] => !body.isEmpty
    | '.' :: fraction => !fraction.isEmpty && fraction.all isDigit
    | _ => false
  | _ => false

/-- What is attached to a spelling by an equals sign: letters to a short one, a value to a
long one. -/
def Attachment.ofSpelling (spelling after : List Char) : Attachment :=
  match spelling with
  | '-' :: '-' :: _ => .value (String.ofList after)
  | _ => .letters after

/-- Splits a text at its first equals sign. -/
def splitEquals (cs : List Char) : List Char × Attachment :=
  match cs.dropWhile (· ≠ '=') with
  | [] => (cs, .nothing)
  | _ :: after =>
    let spelling := cs.takeWhile (· ≠ '=')
    (spelling, .ofSpelling spelling after)

/-- The options that an argument may mean when it spells none out: a long option that
it starts, or a short one that more is written after. -/
def candidates (cs : List Char) : List (String × Switch × Attachment) :=
  match cs with
  | '-' :: '-' :: _ =>
    let (start, attachment) := splitEquals cs
    (Switch.spellings.filter fun (s, _) => start.isPrefixOf s.toList).map fun (s, o) =>
      (s, o, attachment)
  | _ =>
    (Switch.spellings.filter fun (s, _) => s.toList == cs.take 2).map fun (s, o) =>
      (s, o, .letters (cs.drop 2))

/-- Tells what an argument is. -/
def classify (argument : String) : Except Stop Word :=
  let cs := argument.toList
  match cs with
  | '-' :: _ :: _ =>
    let (start, attachment) := splitEquals cs
    match Switch.spellings.lookup (String.ofList start) with
    | some o => .ok (.option o attachment)
    | none =>
      match candidates cs with
      | [(_, o, attachment)] => .ok (.option o attachment)
      | [] =>
        if isNegativeNumeral cs || cs.contains ' ' then .ok (.plain argument)
        else .ok (.unknown argument)
      | several =>
        .error (.misuse ("ambiguous option: " ++ argument ++ " could match " ++
          ", ".intercalate (several.map (·.1))))
  | _ => .ok (.plain argument)

/-- Tells what all arguments are. After the end mark all are plain. -/
def words : List String → Except Stop (List Word)
  | [] => .ok []
  | argument :: rest =>
    if argument = "--" then .ok (.endMark :: rest.map .plain)
    else do
      let first ← classify argument
      let others ← words rest
      .ok (first :: others)

/-- What an option is given: a text, or nothing when all that is attached to it is the
end mark. -/
inductive Operand
  | text (s : String)
  | nothing
  deriving DecidableEq, Repr

/-- What an option is given by a text. -/
def Operand.ofText (s : String) : Operand := if s = "--" then .nothing else .text s

/-- The text that an option is given. -/
def Operand.text? : Operand → Option String
  | .text s => some s
  | .nothing => none

/-- The options carried out so far, and the arguments that none took. -/
structure Progress where
  source : Option (Switch × Operand) := none
  data : Option Operand := none
  logDirectory : Option Operand := none
  fillsDefaults : Bool := true
  extras : List String := []

/-- Carries an option out. -/
def Progress.take (p : Progress) (o : Switch) (value : Operand) : Except Stop Progress :=
  match o with
  | .help => .error .helpWanted
  | .data => .ok { p with data := some value }
  | .logDirectory => .ok { p with logDirectory := some value }
  | .noDefaults => .ok { p with fillsDefaults := false }
  | .template | .default | .schema =>
    match p.source with
    | some (other, _) =>
      if other = o then .ok { p with source := some (o, value) }
      else .error (o.misuse ("not allowed with argument " ++ other.name))
    | none => .ok { p with source := some (o, value) }

/-- The stop at a text that is attached to an option without a value. -/
def ignored (o : Switch) (attached : String) : Stop :=
  o.misuse ("ignored explicit argument " ++ Text.quoted attached)

/-- Reads the letters behind a short option without a value, each of which has to be a
short option again. -/
def readLetters (o : Switch) : List Char → Except Stop Unit
  | [] => .ok ()
  | c :: rest =>
    match Switch.spellings.lookup (String.ofList ['-', c]) with
    | some next => readLetters next rest
    | none => .error (ignored o (String.ofList (c :: rest)))

/-- Carries the options out in order. -/
def carryOut (p : Progress) : List Word → Except Stop Progress
  | [] => .ok p
  | .plain argument :: rest => carryOut { p with extras := p.extras ++ [argument] } rest
  | .unknown argument :: rest => carryOut { p with extras := p.extras ++ [argument] } rest
  | .endMark :: rest => carryOut { p with extras := p.extras ++ ["--"] } rest
  | .option o (.value text) :: rest =>
    if o.takesValue then do carryOut (← p.take o (.ofText text)) rest
    else .error (ignored o text)
  | .option o (.letters cs) :: rest =>
    if o.takesValue then do carryOut (← p.take o (.ofText (String.ofList cs))) rest
    else if cs.isEmpty then .error (ignored o "")
    else do
      readLetters o cs
      carryOut (← p.take o .nothing) rest
  | .option o .nothing :: rest =>
    if o.takesValue then
      match rest with
      | .plain value :: others => do carryOut (← p.take o (.ofText value)) others
      | _ => .error (o.misuse "expected one argument")
    else do carryOut (← p.take o .nothing) rest

/-- What a template is taken from. -/
inductive Source
  | file (path : Operand)
  | builtIn (id : String)
  deriving DecidableEq, Repr

/-- What the command is to print: the schema, or the document of a template. -/
inductive Task
  | schema
  | document (source : Source)
  deriving DecidableEq, Repr

/-- A call of the command that can be run. -/
structure Invocation where
  task : Task
  data : Option Operand
  logDirectory : Option String
  fillsDefaults : Bool
  deriving DecidableEq, Repr

/-- The task that an option sets. An option for a built-in template that is given nothing
asks for one with the id of an empty list, which there is none. -/
def taskOf (o : Switch) (value : Operand) : Task :=
  match o with
  | .template => .document (.file value)
  | .default => .document (.builtIn (value.text?.getD "[]"))
  | _ => .schema

/-- Reads the arguments of the command. -/
def Invocation.read (arguments : List String) : Except Stop Invocation := do
  let p ← carryOut {} (← words arguments)
  match p.source with
  | none =>
    .error (.misuse ("one of the arguments " ++
      " ".intercalate (Switch.sources.map Switch.name) ++ " is required"))
  | some (o, value) =>
    if p.extras.isEmpty then
      .ok ⟨taskOf o value, p.data, p.logDirectory.bind Operand.text?, p.fillsDefaults⟩
    else .error (.misuse ("unrecognized arguments: " ++ " ".intercalate p.extras))

end Stencil.Command
