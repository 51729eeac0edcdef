/-
# Running the command

A run reads a template and a record, makes a document and prints its summary. What it
prints, reports and logs follows from the arguments, the environment and the disk, on a
given machine. A failure of the input is reported and ends the run with a code; any other
failure ends it without a report, and so does a text that the output does not take.
-/

import Stencil.Command.Arguments
import Stencil.Command.Help
import Stencil.Engine.Basic
import Stencil.Log.Routing
import Stencil.Settings.Load
import Stencil.Template.Load
import Stencil.Template.Published

namespace Stencil.Command

/-- What a run can see. -/
structure World where
  environment : Environment := []
  disk : Files.Disk := {}

/-- Something on the error output: a plain line, or a record of the log. -/
inductive Notice
  | line (text : String)
  | logged (r : LogRecord)
  deriving DecidableEq, Repr

/-- What a run leaves: its code, what it prints, and what it adds to log files. -/
structure Report where
  code : Nat
  output : String := ""
  notices : List Notice := []
  disk : Files.Disk
  appended : List (Files.Path × List LogRecord) := []

/-- The path that an option is given. -/
def pathOf : Operand → Except Failure Files.Path
  | .text s => .ok (.ofString s)
  | .nothing => .error .pathMissing

/-- The text that a path leads to, with line ends made one. -/
def readText [Machine] (disk : Files.Disk) (p : Files.Path) : Except Failure (List Char) := do
  match Text.decodeStrict (← disk.read p) with
  | .ok cs => .ok (Text.unifyLineEnds cs)
  | .error error => .error (.textUndecodable error)

/-- Goes on unless some work is nested too deep. -/
def descend [Machine] (work : Nesting) : Except Failure Unit :=
  if Machine.allows work then .ok () else .error .nestedTooDeep

/-- The value of a JSON text. -/
def readJson [Machine] (cs : List Char) : Except Failure Value :=
  match Json.readText (String.ofList cs) with
  | .ok v => .ok v
  | .error (.malformed fault position) => .error (.textMalformed fault position)
  | .error (.tooManyDigits count) => .error (.numeralTooLong count)

/-- The template of a source. -/
def readTemplate [Machine] (disk : Files.Disk) : Source → Traced Template
  | .file path => do
    let cs ← Traced.ofExcept ((pathOf path).bind (readText disk))
    Traced.ofExcept (descend (.template cs))
    Template.loadText (String.ofList cs)
  | .builtIn id => Catalog.find id

/-- The data of an invocation; none given is the empty record. -/
def readData [Machine] (disk : Files.Disk) (path : Option Operand) : Except Failure Value :=
  match path with
  | none => .ok (.object [])
  | some path => do
    let cs ← readText disk (← pathOf path)
    descend (.data cs)
    readJson cs

/-- The event for a failure of the input. -/
def inputEvent (failure : Failure) : Option Event :=
  match failure with
  | .path .. | .textUndecodable _ | .textMalformed .. | .sourceMalformed ..
  | .sourceUndecodable _ | .sourceNotObject | .templateRefused _ | .templateUnknown .. =>
    some (.inputUnreadable failure.message)
  | _ => none

/-- The event for data that is no record. -/
def dataEvent (failure : Failure) : Option Event :=
  match failure with
  | .dataNotRecord _ => some (.dataRefused failure.message)
  | _ => none

/-- The template of a source, with the data of an invocation. -/
def readInput [Machine] (disk : Files.Disk) (source : Source) (data : Option Operand) :
    Traced (Template × Value) := do
  let t ← readTemplate disk source
  let data ← Traced.ofExcept (readData disk data)
  pure (t, data)

/-- Makes a document in a workshop of its own. -/
def makeDocument [Machine] (settings : Settings) (t : Template) (data : Value) :
    Traced Document := do
  let engine ← ((Engine.build none).run { settings }).1
  engine.generate t data

/-- The characters that are printed for a value. -/
def printedChars (v : Value) : List Char := Json.printAt Json.documentStyle 0 v ++ ['\n']

/-- The printed form of a value. -/
def printed (v : Value) : String := String.ofList (printedChars v)

/-- Characters as a text that is written to the output, which has to take all of them. -/
def written [Machine] (cs : List Char) : Except Failure String :=
  match cs.findIdx? fun c => !Machine.prints c with
  | none => .ok (String.ofList cs)
  | some position => .error (.outputUnencodable position)

/-- Does what an invocation asks for: the code to end with and what to print. -/
def perform [Machine] (i : Invocation) (settings : Settings) (disk : Files.Disk) :
    Traced (Nat × String) :=
  match i.task with
  | .schema => pure (0, printed Template.published.toValue)
  | .document source => do
    match ← (readInput disk source i.data).attempt inputEvent with
    | none => pure (1, "")
    | some (t, data) =>
      let settings :=
        { settings with fillsDefaults := settings.fillsDefaults && i.fillsDefaults }
      match ← (makeDocument settings t data).attempt dataEvent with
      | none => pure (1, "")
      | some d => Traced.ofExcept ((written (printedChars d.summary)).map fun output => (0, output))

/-- The text of the environment file, if there is one. -/
def environmentFile [Machine] (disk : Files.Disk) : Except Failure (Option (List Char)) :=
  let p : Files.Path := .ofString ".env"
  if (disk.file? p).isSome then (readText disk p).map some else .ok none

/-- Runs an invocation. The events of a run are those that its log lets through. -/
def runInvocation [Machine] (i : Invocation) (world : World) : Traced Report := do
  let file ← Traced.ofExcept (environmentFile world.disk)
  let settings ← Settings.load { environment := world.environment, file }
  let level ← Traced.ofExcept settings.level
  let directory := i.logDirectory.map Files.Path.ofString
  let (routing, disk) ← Traced.ofExcept (Routing.prepare world.disk settings directory)
  let routing := { routing with libraryThreshold := some level }
  let work := perform i settings disk
  let events := work.events.filter fun e => routing.accepts e.toRecord
  Traced.notes events
  let (code, output) ← Traced.ofExcept work.result
  let records := events.map Event.toRecord
  pure
    { code, output, disk
      notices := (routing.received .console records).map .logged
      appended := routing.appended records }

/-- Runs the command. -/
def run [Machine] (arguments : List String) (world : World) : Traced Report :=
  match Invocation.read arguments with
  | .error .helpWanted => pure { code := 0, output := linesText helpLines, disk := world.disk }
  | .error (.misuse message) =>
    pure { code := 2, notices := (misuseLines message).map .line, disk := world.disk }
  | .ok i => runInvocation i world

end Stencil.Command
