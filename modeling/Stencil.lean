import Stencil.Catalog
import Stencil.Command.Arguments
import Stencil.Command.Help
import Stencil.Command.Run
import Stencil.Engine.Basic
import Stencil.Engine.Document
import Stencil.Engine.Session
import Stencil.Engine.Shared
import Stencil.Engine.Workshop
import Stencil.Failure
import Stencil.Field.Constraint
import Stencil.Field.Defaults
import Stencil.Field.Discovery
import Stencil.Field.Required
import Stencil.Files.Disk
import Stencil.Files.Path
import Stencil.Json.Error
import Stencil.Json.Printer
import Stencil.Json.Reader
import Stencil.Log.Event
import Stencil.Log.Routing
import Stencil.Log.Stateful
import Stencil.Log.Trace
import Stencil.Machine
import Stencil.Main
import Stencil.Number.Binary64
import Stencil.Number.Digits
import Stencil.Number.Layout
import Stencil.Number.Numeral
import Stencil.Pattern.Character
import Stencil.Pattern.Matcher
import Stencil.Pattern.Place
import Stencil.Pattern.Reader
import Stencil.Pattern.Refusal
import Stencil.Pattern.Single
import Stencil.Pattern.Syntax
import Stencil.Placeholder
import Stencil.Proofs.Command.Agreement
import Stencil.Proofs.Command.Input
import Stencil.Proofs.Command.Making
import Stencil.Proofs.Command.Options
import Stencil.Proofs.Command.Outcome
import Stencil.Proofs.Command.Report
import Stencil.Proofs.Command.Strictness
import Stencil.Proofs.Engine.Agreement
import Stencil.Proofs.Engine.Coherence
import Stencil.Proofs.Engine.Confinement
import Stencil.Proofs.Engine.Declarations
import Stencil.Proofs.Engine.Generation
import Stencil.Proofs.Engine.Repetition
import Stencil.Proofs.Engine.Session
import Stencil.Proofs.Engine.Shared
import Stencil.Proofs.Engine.Shared.Settings
import Stencil.Proofs.Engine.Shared.Workshop
import Stencil.Proofs.Engine.Showable
import Stencil.Proofs.Engine.Store
import Stencil.Proofs.Engine.Totality
import Stencil.Proofs.Engine.Warnings
import Stencil.Proofs.Engine.Workshop
import Stencil.Proofs.Field.Broken
import Stencil.Proofs.Field.Checkable
import Stencil.Proofs.Field.Defaults
import Stencil.Proofs.Field.Discovery
import Stencil.Proofs.Field.FirstWins
import Stencil.Proofs.Field.Gaps
import Stencil.Proofs.Field.InRange
import Stencil.Proofs.Field.Required
import Stencil.Proofs.Field.Resaved
import Stencil.Proofs.Files.Opening
import Stencil.Proofs.Json.Faithful
import Stencil.Proofs.Json.Layout
import Stencil.Proofs.Json.Number
import Stencil.Proofs.Json.Parts
import Stencil.Proofs.Json.Quoted
import Stencil.Proofs.Json.Reading
import Stencil.Proofs.Json.Reread
import Stencil.Proofs.Json.RoundTrip
import Stencil.Proofs.Json.Strict
import Stencil.Proofs.Json.Unquoted
import Stencil.Proofs.Log.Routing
import Stencil.Proofs.Log.Stateful
import Stencil.Proofs.Log.Trace
import Stencil.Proofs.Log.Warnings
import Stencil.Proofs.Number.Order
import Stencil.Proofs.Number.Rounding
import Stencil.Proofs.Number.Shortest
import Stencil.Proofs.Placeholder.Dependence
import Stencil.Proofs.Placeholder.Grammar
import Stencil.Proofs.Placeholder.Label
import Stencil.Proofs.Placeholder.Split
import Stencil.Proofs.Placeholder.Substitution
import Stencil.Proofs.Record
import Stencil.Proofs.Render.Faithful
import Stencil.Proofs.Render.Finite
import Stencil.Proofs.Render.Order
import Stencil.Proofs.Render.ReadBack
import Stencil.Proofs.Render.Shape
import Stencil.Proofs.Render.Showable
import Stencil.Proofs.Render.Shown
import Stencil.Proofs.Render.Style
import Stencil.Proofs.Render.Table
import Stencil.Proofs.Render.Yields
import Stencil.Proofs.Schema.Acceptance
import Stencil.Proofs.Schema.Attribute
import Stencil.Proofs.Schema.Described
import Stencil.Proofs.Schema.Instance
import Stencil.Proofs.Settings.Usable
import Stencil.Proofs.Template.Carried
import Stencil.Proofs.Template.FinitePart
import Stencil.Proofs.Template.Integers
import Stencil.Proofs.Template.Loading
import Stencil.Proofs.Template.Published
import Stencil.Proofs.Template.RoundTrip
import Stencil.Proofs.Template.Stored
import Stencil.Proofs.Text.Carried
import Stencil.Proofs.Text.Run
import Stencil.Proofs.Value.Induction
import Stencil.Proofs.Value.Numbers
import Stencil.Render.Document
import Stencil.Render.Node
import Stencil.Render.Section
import Stencil.Schema.Checked
import Stencil.Schema.Coercion
import Stencil.Schema.Issue
import Stencil.Schema.Shape
import Stencil.Settings.Basic
import Stencil.Settings.Decode
import Stencil.Settings.EnvFile
import Stencil.Settings.Load
import Stencil.Settings.Options
import Stencil.Template.Basic
import Stencil.Template.Decode
import Stencil.Template.Encode
import Stencil.Template.Load
import Stencil.Template.Published
import Stencil.Text.Blank
import Stencil.Text.CharacterName
import Stencil.Text.CharacterName.Alias
import Stencil.Text.CharacterName.Ancient
import Stencil.Text.CharacterName.Arabic
import Stencil.Text.CharacterName.Carved
import Stencil.Text.CharacterName.Eastern
import Stencil.Text.CharacterName.Greek
import Stencil.Text.CharacterName.Indic
import Stencil.Text.CharacterName.Latin
import Stencil.Text.CharacterName.Modern
import Stencil.Text.CharacterName.Notation
import Stencil.Text.CharacterName.Phonetic
import Stencil.Text.CharacterName.Pictograph
import Stencil.Text.CharacterName.Rare
import Stencil.Text.CharacterName.Run
import Stencil.Text.CharacterName.Southern
import Stencil.Text.CharacterName.Syllabic
import Stencil.Text.CharacterName.Symbol
import Stencil.Text.CodeRange
import Stencil.Text.DecimalDigit
import Stencil.Text.Encoding
import Stencil.Text.Identifier
import Stencil.Text.LowerCase
import Stencil.Text.Parts
import Stencil.Text.Printable
import Stencil.Text.Quoted
import Stencil.Text.UpperCase
import Stencil.Text.Word
import Stencil.Value.Basic
import Stencil.Value.Display
import Stencil.Value.Input
import Stencil.Proofs.Schema.Restated
import Stencil.Proofs.Template.Restated
import Stencil.Proofs.Number.Interval
import Stencil.Proofs.Number.Fewest
import Stencil.Proofs.Number.Client
import Stencil.Proofs.Value.Client
