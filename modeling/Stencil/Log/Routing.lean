/-
# Routing of log records

A record goes to the console and, when there is a directory for logs, to one file for
information and one for errors. Each route has a threshold of its own, behind the
threshold that a record has to pass in the first place.
-/

import Stencil.Files.Disk
import Stencil.Settings.Basic

namespace Stencil

namespace LogRecord

/-- The name of a level in eight columns. -/
def levelColumn (r : LogRecord) : String :=
  r.level.name ++ String.ofList (List.replicate (8 - r.level.name.length) ' ')

/-- The text of a record on the console. -/
def consoleText (time : String) (r : LogRecord) : String :=
  time ++ " | " ++ r.levelColumn ++ " | " ++ r.message

/-- The text of a record in a file. -/
def fileText (time : String) (r : LogRecord) : String :=
  time ++ " | " ++ r.levelColumn ++ " | " ++ r.channel ++ " | " ++ r.message

/-- Whether the record was reported on a channel of the library. -/
def isFromLibrary (r : LogRecord) : Bool :=
  r.channel == "doctemplate" || "doctemplate.".isPrefixOf r.channel

end LogRecord

/-- Where records go. -/
inductive Sink
  | console
  | file (path : Files.Path)
  deriving DecidableEq, Repr

/-- A sink with the least level that it takes. -/
structure Route where
  sink : Sink
  threshold : Level
  deriving DecidableEq, Repr

/-- The routes of a log. The channels of the library may have a threshold of their
own. -/
structure Routing where
  threshold : Level
  libraryThreshold : Option Level := none
  routes : List Route
  deriving DecidableEq, Repr

namespace Routing

/-- The threshold that a record has to pass before it is routed. -/
def thresholdOf (routing : Routing) (r : LogRecord) : Level :=
  if r.isFromLibrary then
    match routing.libraryThreshold with
    | none | some .notSet => routing.threshold
    | some level => level
  else routing.threshold

/-- Whether a record is routed at all. -/
def accepts (routing : Routing) (r : LogRecord) : Bool :=
  r.level.passes (routing.thresholdOf r)

/-- The records that a route takes. -/
def taken (routing : Routing) (route : Route) (records : List LogRecord) : List LogRecord :=
  records.filter fun r => routing.accepts r && r.level.passes route.threshold

/-- The records that a sink receives. -/
def received (routing : Routing) (sink : Sink) (records : List LogRecord) : List LogRecord :=
  (routing.routes.filter fun route => route.sink = sink).flatMap fun route =>
    routing.taken route records

/-- The level of the console: everything when debugging, and else information. -/
def consoleLevel (s : Settings) : Level := if s.logLevel = "DEBUG" then .debug else .info

/-- The routes to the files of a directory, which are made if they are missing. -/
def fileRoutes (disk : Files.Disk) (directory : Files.Path) :
    Except Failure (List Route × Files.Disk) := do
  let disk ← disk.makeDirectories directory
  let (info, disk) ← disk.touch (directory.child "info.log")
  let (error, disk) ← disk.touch (directory.child "error.log")
  .ok ([⟨.file info, .info⟩, ⟨.file error, .error⟩], disk)

/-- Opens the log that settings describe. A directory given apart from the settings
comes first. -/
def prepare (disk : Files.Disk) (s : Settings) (directory : Option Files.Path) :
    Except Failure (Routing × Files.Disk) := do
  let (files, disk) ← match directory.or s.logDirectory with
    | none => .ok ([], disk)
    | some found => fileRoutes disk found
  .ok ({ threshold := consoleLevel s, routes := files ++ [⟨.console, consoleLevel s⟩] }, disk)

/-- The files of a routing, each with the records it receives. -/
def appended (routing : Routing) (records : List LogRecord) :
    List (Files.Path × List LogRecord) :=
  routing.routes.filterMap fun route =>
    match route.sink with
    | .console => none
    | .file path => some (path, routing.taken route records)

end Routing

end Stencil
