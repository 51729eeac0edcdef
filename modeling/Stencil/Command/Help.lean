/-
# Usage and help

The texts that the command prints about itself.
-/

import Stencil.Catalog

namespace Stencil.Command

/-- The name of the command. -/
def programName : String := "render_template.py"

/-- The lines that show how the command is called. -/
def usageLines : List String :=
  ["usage: " ++ programName ++ " [-h] (--template TEMPLATE | --default ID | --schema)",
   "                          [--data DATA] [--no-defaults] [--log-dir LOG_DIR]"]

/-- The options as they are written, each with what it is for. -/
def optionTable : List (String × String) :=
  [("-h, --help", "show this help message and exit"),
   ("--template TEMPLATE", "Path to a template JSON document"),
   ("--default ID", "Built-in template id (" ++ ", ".intercalate Catalog.ids ++ ")"),
   ("--schema", "Print the template JSON schema and exit"),
   ("--data DATA", "Path to a data record JSON document"),
   ("--no-defaults", "Do not merge field default values"),
   ("--log-dir LOG_DIR", "Write info.log and error.log to this directory")]

/-- A line of the help on options, in two columns. -/
def optionLine (width : Nat) (row : String × String) : String :=
  "  " ++ row.1 ++ String.ofList (List.replicate (width + 2 - row.1.length) ' ') ++ row.2

/-- The lines of the help. -/
def helpLines : List String :=
  let width := (optionTable.map fun row => row.1.length).foldl max 0
  usageLines ++ ["", "Render a document template to render nodes (JSON).", "", "options:"] ++
    optionTable.map (optionLine width)

/-- The lines that report a misuse. -/
def misuseLines (message : String) : List String :=
  usageLines ++ [programName ++ ": error: " ++ message]

/-- Lines as a text. -/
def linesText (lines : List String) : String := String.join (lines.map fun s => s ++ "\n")

end Stencil.Command
