/-
# Settings from given values

Every setting has a default, and defaults are checked like given values. The footer
has to be smaller than the body, whether the two sizes were given or not.
-/

import Stencil.Schema.Coercion
import Stencil.Settings.Basic
import Stencil.Text.UpperCase

namespace Stencil.Settings

open Schema

/-- Reads a count that is one at least. -/
def readWidth (v : Value) : Checked Int :=
  (readInteger v).andThen fun width =>
    if 1 ≤ width then .accepted width else .refuse (.notAtLeast 1)

/-- Reads a size above zero. -/
def readSize (v : Value) : Checked Binary64 :=
  (readNumber v).andThen fun size =>
    if (Number.int 0).lt (.float size) then .accepted size else .refuse (.notAbove 0)

/-- Reads the size of the footer next to that of the body, unless that one is
refused itself. -/
def readFooterSize (body : Checked Binary64) (v : Value) : Checked Binary64 :=
  (readSize v).andThen fun size =>
    match body with
    | .refused _ => .accepted size
    | .accepted bodySize =>
      if (Number.float bodySize).le (.float size) then
        .refuse (.rule "footer_font_size must be smaller than body_font_size")
      else .accepted size

/-- Reads a directory. -/
def readDirectory : Value → Checked Files.Path
  | .text s => .accepted (.ofString s)
  | _ => .refuse .notPath

/-- Reads a setting from its given value or its default. -/
def setting {α : Type} (given : String → Option Value) (name : String) (absent : Value)
    (read : Value → Checked α) : Checked α :=
  (read ((given name).getD absent)).within (.key name)

/-- Reads settings. -/
def read (given : String → Option Value) : Checked Settings :=
  let bodySize := setting given "body_font_size" (.int 11) readSize
  Settings.mk
    <$> setting given "separator_width" (.int 80) readWidth
    <*> setting given "signature_blank" (.text (String.ofList (List.replicate 24 '_'))) readText
    <*> setting given "table_data_fallback" (.bool true) readBoolean
    <*> setting given "apply_defaults" (.bool true) readBoolean
    <*> setting given "header_font_size" (.int 18) readSize
    <*> setting given "heading_font_size" (.int 13) readSize
    <*> bodySize
    <*> setting given "footer_font_size" (.int 9) (readFooterSize bodySize)
    <*> (Text.upper <$> setting given "log_level" (.text "INFO") readText)
    <*> setting given "log_dir" .null (readNullable readDirectory)

end Stencil.Settings
