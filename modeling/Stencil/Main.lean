/-
# The command

Looks up what a run can see, runs the command and puts out what it leaves. Times in
the log count the milliseconds from the start of the run.
-/

import Stencil.Command.Run

namespace Stencil.Command

/-- The names of the settings, as they may stand in the environment. -/
def settingNames : List String :=
  ["separator_width", "signature_blank", "table_data_fallback", "apply_defaults",
   "header_font_size", "heading_font_size", "body_font_size", "footer_font_size",
   "log_level", "log_dir"]

/-- The environment, as far as it can set anything. -/
def readEnvironment : IO Environment := do
  let mut found : Environment := []
  for name in settingNames ++ settingNames.map fun s => s.map Char.toUpper do
    match ← IO.getEnv name with
    | some value => found := found ++ [(name, value)]
    | none => pure ()
  return found

/-- Adds what a path leads to on the real disk. -/
def addPath (disk : Files.Disk) (p : Files.Path) : IO Files.Disk := do
  try
    let bytes ← IO.FS.readBinFile p.toString
    return { disk with files := disk.files ++ [(p, bytes.toList)] }
  catch
    | .inappropriateType .. => return { disk with directories := disk.directories ++ [p] }
    | _ => return disk

/-- The paths that an invocation reads. -/
def pathsRead (i : Invocation) : List Files.Path :=
  let template := match i.task with
    | .document (.file path) => [path]
    | _ => []
  (".env" :: (template ++ i.data.toList).filterMap Operand.text?).map .ofString

/-- What the run of some arguments can see. -/
def readWorld (arguments : List String) : IO World := do
  let paths := match Invocation.read arguments with
    | .ok i => pathsRead i
    | .error _ => []
  return { environment := ← readEnvironment, disk := ← paths.foldlM addPath {} }

/-- The path that holds a file. -/
def holder (p : Files.Path) : Files.Path := { p with parts := p.parts.dropLast }

/-- Puts out what a run leaves. -/
def putOut (time : String) (report : Report) : IO Unit := do
  for notice in report.notices do
    match notice with
    | .line text => IO.eprintln text
    | .logged r => IO.eprintln (r.consoleText time)
  for (path, records) in report.appended do
    IO.FS.createDirAll (holder path).toString
    let handle ← IO.FS.Handle.mk path.toString .append
    for r in records do
      handle.putStrLn (r.fileText time)
  IO.print report.output

end Stencil.Command

/-- Runs the command with the arguments of the program. -/
def main (arguments : List String) : IO UInt32 := do
  let start ← IO.monoMsNow
  let world ← Stencil.Command.readWorld arguments
  match (Stencil.Command.run arguments world).result with
  | .error failure =>
    IO.eprintln failure.message
    return 1
  | .ok report =>
    let time := toString ((← IO.monoMsNow) - start) ++ " ms"
    Stencil.Command.putOut time report
    return UInt32.ofNat report.code
