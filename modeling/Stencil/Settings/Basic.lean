/-
# Settings

Settings configure the renderers, the filling in of defaults and the log.
-/

import Stencil.Files.Path
import Stencil.Failure
import Stencil.Log.Event

namespace Stencil

/-- The settings of an engine and its log. -/
structure Settings where
  separatorWidth : Int
  signatureBlank : String
  readsLegacyRows : Bool
  fillsDefaults : Bool
  headerSize : Binary64
  headingSize : Binary64
  bodySize : Binary64
  footerSize : Binary64
  logLevel : String
  logDirectory : Option Files.Path
  deriving DecidableEq, Repr

namespace Settings

/-- The document of settings. -/
def toValue (s : Settings) : Value :=
  .object
    [("separator_width", .int s.separatorWidth), ("signature_blank", .text s.signatureBlank),
     ("table_data_fallback", .bool s.readsLegacyRows), ("apply_defaults", .bool s.fillsDefaults),
     ("header_font_size", .float s.headerSize), ("heading_font_size", .float s.headingSize),
     ("body_font_size", .float s.bodySize), ("footer_font_size", .float s.footerSize),
     ("log_level", .text s.logLevel),
     ("log_dir", s.logDirectory.elim .null fun path => .text path.toString)]

/-- The names that stand for something other than a level, with what is shown for
it. -/
def misleadingLevels : List (String × Failure) :=
  [("BASIC_FORMAT", .levelUnknown "%(levelname)s:%(name)s:%(message)s"),
   ("_STYLES", .levelNotNamed
     ("\x7b'%': (<class 'logging.PercentStyle'>, '%(levelname)s:%(name)s:%(message)s'), " ++
      "'\x7b': (<class 'logging.StrFormatStyle'>, " ++
      "'\x7blevelname\x7d:\x7bname\x7d:\x7bmessage\x7d'), " ++
      "'$': (<class 'logging.StringTemplateStyle'>, " ++
      "'$\x7blevelname\x7d:$\x7bname\x7d:$\x7bmessage\x7d')\x7d"))]

/-- The level that the settings ask for. A name that is no level asks for
information. -/
def level (s : Settings) : Except Failure Level :=
  match Level.named.lookup s.logLevel, misleadingLevels.lookup s.logLevel with
  | some level, _ => .ok level
  | none, some failure => .error failure
  | none, none => .ok .info

end Settings

end Stencil
