/-
# Where settings come from

A setting is taken from the arguments, else from the environment, else from an
environment file, else it has its default. Names are compared in lower case unless an
option asks for the exact ones. The first of several arguments for a setting counts,
and the last of several entries of the environment or the file.
-/

import Stencil.Log.Trace
import Stencil.Settings.Decode
import Stencil.Settings.EnvFile
import Stencil.Settings.Options
import Stencil.Text.Encoding

namespace Stencil

/-- The variables of an environment in order. -/
abbrev Environment := List (String × String)

namespace Environment

/-- Sets a variable; one that is set already keeps its place. -/
def assign (name value : String) : Environment → Environment
  | [] => [(name, value)]
  | (found, old) :: rest =>
    if found = name then (name, value) :: rest else (found, old) :: assign name value rest

/-- Unsets a variable. -/
def remove (name : String) (environment : Environment) : Environment :=
  environment.filter fun binding => binding.1 ≠ name

end Environment

namespace Settings

/-- What settings are taken from. -/
structure Sources where
  arguments : List (String × Value) := []
  environment : Environment := []
  file : Option (List Char) := none

namespace Sources

/-- The options among the arguments. -/
def options (s : Sources) : Options := .ofArguments s.arguments

/-- The entries of the file, whose line ends may be of any kind. -/
def fileEntries (s : Sources) : List EnvFile.Entry :=
  match s.file with
  | some cs => if s.options.readsFile then EnvFile.entries (Text.unifyLineEnds cs) else []
  | none => []

/-- The value that the arguments have for a setting. -/
def inArguments? (s : Sources) (name : String) : Option Value :=
  (s.arguments.find? fun entry => s.options.isSame entry.1 name).map (·.2)

/-- The value that the environment has for a setting. -/
def inEnvironment? (s : Sources) (name : String) : Option Value :=
  (s.options.last? (s.environment.filter fun entry => s.options.counts entry.2) name).map
    s.options.meaning

/-- The value that the file has for a setting. A name without a value hides the ones
before it. -/
def inFile? (s : Sources) (name : String) : Option Value :=
  let entries := EnvFile.resolve s.environment s.fileEntries
  ((s.options.last? (entries.filter fun entry => entry.2.all s.options.counts) name).join).map
    s.options.meaning

/-- The given value of a setting. -/
def given (s : Sources) (name : String) : Option Value :=
  ((s.inArguments? name).or (s.inEnvironment? name)).or (s.inFile? name)

end Sources

/-- Loads settings. -/
def load (s : Sources) : Traced Settings := do
  Traced.ofExcept (Options.checkFiles s.arguments)
  match read s.given with
  | .accepted settings => pure settings
  | .refused issues => .fail (.modelRefused "Settings" issues)

end Settings

end Stencil
