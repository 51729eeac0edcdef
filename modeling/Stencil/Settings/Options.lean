/-
# Options for loading settings

Arguments whose names start with a low line are no settings. They say how the settings
are looked up: what stands in front of their names in the environment, whether case
counts, what an empty text means, and which environment files are read.
-/

import Stencil.Failure
import Stencil.Files.Path
import Stencil.Text.LowerCase
import Stencil.Value.Basic

namespace Stencil.Settings

/-- How settings are looked up. -/
structure Options where
  namesStartWith : String := ""
  isExact : Bool := false
  ignoresEmpty : Bool := false
  nullWord : Option String := none
  readsFile : Bool := true
  deriving DecidableEq, Repr

namespace Options

/-- The environment file of a directory. -/
def standardFile : Files.Path := .ofString ".env"

/-- Whether a value names the standard environment file. -/
def namesStandardFile : Value → Bool
  | .text s => Files.Path.ofString s == standardFile
  | _ => false

/-- Whether a value given for the environment files names the standard one, alone or
among others. -/
def readsStandardFile : Value → Bool
  | .list items => items.any namesStandardFile
  | .object entries => entries.any fun entry => namesStandardFile (.text entry.1)
  | v => namesStandardFile v

/-- The text that a value is, unless it is empty. -/
def text? : Value → Option String
  | .text s => some s
  | _ => none

/-- The options among arguments. One that is not given or null has its default. -/
def ofArguments (arguments : List (String × Value)) : Options where
  namesStartWith := ((arguments.lookup "_env_prefix").bind text?).getD ""
  isExact := (arguments.lookup "_case_sensitive").any Value.isTruthy
  ignoresEmpty := (arguments.lookup "_env_ignore_empty").any Value.isTruthy
  nullWord := (arguments.lookup "_env_parse_none_str").bind text?
  readsFile := (arguments.lookup "_env_file").all readsStandardFile

/-- Refuses a number where environment files should be named. -/
def checkFiles (arguments : List (String × Value)) : Except Failure Unit :=
  match arguments.lookup "_env_file" with
  | some (.bool b) => .error (.notIterable (Value.bool b).typeName)
  | some (.int i) => .error (.notIterable (Value.int i).typeName)
  | some (.float x) => .error (.notIterable (Value.float x).typeName)
  | _ => .ok ()

/-- Whether two names are the same. -/
def isSame (o : Options) (found name : String) : Bool :=
  if o.isExact then found == name else Text.lowerText found == Text.lowerText name

/-- The last value that the environment has for a setting. -/
def last? {α : Type} (o : Options) (entries : List (String × α)) (name : String) : Option α :=
  (entries.reverse.find? fun entry => o.isSame entry.1 (o.namesStartWith ++ name)).map (·.2)

/-- Whether a text counts as given. -/
def counts (o : Options) (text : String) : Bool := !(o.ignoresEmpty && text == "")

/-- The value that a text means. -/
def meaning (o : Options) (text : String) : Value :=
  if o.nullWord = some text then .null else .text text

end Options

end Stencil.Settings
