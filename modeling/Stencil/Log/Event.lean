/-
# Events worth recording

The work on a document leaves a trace of events. Each event is recorded by its
cause; its level, the channel it is reported on and its wording follow from the
cause.
-/

import Stencil.Template.Basic

namespace Stencil

/-- How much an event matters. -/
inductive Level
  | notSet | debug | info | warning | error | critical
  deriving DecidableEq, Repr

namespace Level

/-- The place of a level in the order of importance. -/
def rank : Level → Nat
  | .notSet => 0
  | .debug => 10
  | .info => 20
  | .warning => 30
  | .error => 40
  | .critical => 50

/-- The name of a level. -/
def name : Level → String
  | .notSet => "NOTSET"
  | .debug => "DEBUG"
  | .info => "INFO"
  | .warning => "WARNING"
  | .error => "ERROR"
  | .critical => "CRITICAL"

/-- The names under which a level can be asked for. -/
def named : List (String × Level) :=
  [("NOTSET", .notSet), ("DEBUG", .debug), ("INFO", .info), ("WARNING", .warning),
   ("WARN", .warning), ("ERROR", .error), ("CRITICAL", .critical), ("FATAL", .critical)]

/-- Whether an event of this level passes a threshold. -/
def passes (level threshold : Level) : Bool := threshold.rank ≤ level.rank

end Level

/-- A line of a log: where it was reported, how much it matters and what it says. -/
structure LogRecord where
  channel : String
  level : Level
  message : String
  deriving DecidableEq, Repr

/-- Something that happened in the work on a document. -/
inductive Event
  | templateRefused (issueCount : Nat)
  | templateLoaded (id version : String) (sectionCount : Nat)
  | fieldConflict (key : String) (keptType : FieldType) (keptId : String)
      (ignoredType : FieldType) (ignoredId source : String)
  | fieldsDiscovered (templateId : String) (fieldCount conflictCount : Nat)
  | patternIgnored (key : String) (fault : Option String)
  | sectionHidden (id : String)
  | kindUnsupported (id kindName : String)
  | templateRendered (id : String) (nodeCount sectionCount : Nat)
  | legacyRowsUsed (sectionId : String)
  | tableWithoutColumns (sectionId : String)
  | rendererBuilt (kind : SectionKind)
  | documentRendererBuilt
  | renderersForgotten
  | fieldsMissing (templateId : String) (keys : List String)
  | unknownTemplate (id : String)
  | inputUnreadable (reason : String)
  | dataRefused (reason : String)
  deriving DecidableEq, Repr

namespace Event

/-- The level of an event. -/
def level : Event → Level
  | .templateRefused _ | .inputUnreadable _ | .dataRefused _ => .error
  | .fieldConflict .. | .patternIgnored .. | .legacyRowsUsed _ | .unknownTemplate _ => .warning
  | .documentRendererBuilt | .fieldsMissing .. => .info
  | _ => .debug

/-- The channel an event is reported on. -/
def channel : Event → String
  | .templateRefused _ | .templateLoaded .. => "doctemplate.strategies.template_engine.loader"
  | .fieldConflict .. | .fieldsDiscovered .. => "doctemplate.strategies.template_engine.discovery"
  | .patternIgnored .. => "doctemplate.strategies.template_engine.validator"
  | .sectionHidden _ | .kindUnsupported .. | .templateRendered .. =>
    "doctemplate.strategies.sections.dispatcher"
  | .legacyRowsUsed _ | .tableWithoutColumns _ => "doctemplate.strategies.sections.table"
  | .rendererBuilt _ | .documentRendererBuilt | .renderersForgotten => "doctemplate.core.factory"
  | .fieldsMissing .. => "doctemplate.core.engine"
  | .unknownTemplate _ => "doctemplate.catalog.default_templates"
  | .inputUnreadable _ | .dataRefused _ => "render_template"

/-- The wording of an event. -/
def message : Event → String
  | .templateRefused issueCount =>
    "Template validation failed: " ++ toString issueCount ++ " error(s)"
  | .templateLoaded id version sectionCount =>
    "Loaded template '" ++ id ++ "' v" ++ version ++ " (" ++ toString sectionCount ++ " sections)"
  | .fieldConflict key keptType keptId ignoredType ignoredId source =>
    "Field key conflict on '" ++ key ++ "': keeping " ++ keptType.name ++ " field '" ++ keptId ++
      "', ignoring " ++ ignoredType.name ++ " field '" ++ ignoredId ++ "' from " ++ source
  | .fieldsDiscovered templateId fieldCount conflictCount =>
    "Discovered " ++ toString fieldCount ++ " fields for template '" ++ templateId ++ "' (" ++
      toString conflictCount ++ " conflicts)"
  | .patternIgnored key fault =>
    "Ignoring invalid pattern on field '" ++ key ++ "'" ++ fault.elim "" (": " ++ ·)
  | .sectionHidden id => "Section '" ++ id ++ "' hidden by conditional"
  | .kindUnsupported id kindName =>
    "Skipping section '" ++ id ++ "' with unsupported kind '" ++ kindName ++ "'"
  | .templateRendered id nodeCount sectionCount =>
    "Rendered template '" ++ id ++ "': " ++ toString nodeCount ++ " of " ++
      toString sectionCount ++ " sections produced output"
  | .legacyRowsUsed sectionId =>
    "Table section '" ++ sectionId ++
      "' reads rows from deprecated 'tableData' key; key the rows by section id instead"
  | .tableWithoutColumns sectionId =>
    "Skipping table section '" ++ sectionId ++ "' without columns"
  | .rendererBuilt kind => "Instantiating section renderer: " ++ kind.name
  | .documentRendererBuilt => "Instantiating template renderer"
  | .renderersForgotten => "Component factory cache cleared"
  | .fieldsMissing templateId keys =>
    "Template '" ++ templateId ++ "' rendered with missing required fields: " ++
      ", ".intercalate keys
  | .unknownTemplate id => "Unknown default template requested: " ++ id
  | .inputUnreadable reason => "Could not load input: " ++ reason
  | .dataRefused reason => "Invalid data record: " ++ reason

/-- The line of a log for an event. -/
def toRecord (e : Event) : LogRecord := ⟨e.channel, e.level, e.message⟩

end Event

end Stencil
