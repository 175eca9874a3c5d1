import LabelPress.AtomicWrite
import LabelPress.Binary64.Basic
import LabelPress.Binary64.Nearest
import LabelPress.Binary64.Reader
import LabelPress.Binary64.Shortest
import LabelPress.Calendar
import LabelPress.Command
import LabelPress.CommandLine.Arguments
import LabelPress.CommandLine.Job
import LabelPress.CommandLine.Run
import LabelPress.CommandLine.Switch
import LabelPress.CommandLine.Word
import LabelPress.Csv
import LabelPress.Event
import LabelPress.Files
import LabelPress.Files.Effect
import LabelPress.Generation
import LabelPress.Json.Basic
import LabelPress.Json.Reader
import LabelPress.Json.Value
import LabelPress.Json.Writer
import LabelPress.Layout
import LabelPress.Log.Context
import LabelPress.Log.Level
import LabelPress.Log.Line
import LabelPress.Log.Session
import LabelPress.Log.Timestamp
import LabelPress.Main
import LabelPress.Number
import LabelPress.Numeral
import LabelPress.Options.Check
import LabelPress.Options.Detail
import LabelPress.Options.Reading
import LabelPress.Options.Resolution
import LabelPress.Options.Validation
import LabelPress.Page
import LabelPress.Path
import LabelPress.Pitch
import LabelPress.Position
import LabelPress.Proofs.Digits
import LabelPress.Proofs.Numerals
import LabelPress.Proofs.Value.Mapping
import LabelPress.Proofs.Options.Given
import LabelPress.Proofs.Options.Allowed
import LabelPress.Proofs.Options.Resolution
import LabelPress.Proofs.Options.Canonical
import LabelPress.Proofs.Options.Precedence
import LabelPress.Proofs.Options.Printable
import LabelPress.Proofs.Outcome
import LabelPress.Proofs.Page
import LabelPress.Proofs.Text.Cut
import LabelPress.Proofs.Text.Sanitized
import LabelPress.Record
import LabelPress.Rendering
import LabelPress.Setting
import LabelPress.Sources
import LabelPress.Stock
import LabelPress.Text.Blank
import LabelPress.Text.CaseTable
import LabelPress.Text.DecimalDigit
import LabelPress.Text.Encoding
import LabelPress.Text.Letter
import LabelPress.Text.Literal
import LabelPress.Text.Newline
import LabelPress.Text.Printable
import LabelPress.Text.Quoted
import LabelPress.Text.Utf8
import LabelPress.Underflow
import LabelPress.Value.Basic
import LabelPress.Value.Printer
import LabelPress.Yaml.BlockText
import LabelPress.Yaml.Cursor
import LabelPress.Yaml.Document
import LabelPress.Yaml.Fault
import LabelPress.Yaml.Lexer
import LabelPress.Yaml.Node
import LabelPress.Yaml.PlainText
import LabelPress.Yaml.QuotedText
import LabelPress.Yaml.Scalar
import LabelPress.Yaml.Tag
import LabelPress.Yaml.Token
import LabelPress.Proofs.Rendering
import LabelPress.Proofs.Document.Composition
import LabelPress.Proofs.Document.Congruence
import LabelPress.Proofs.Document.Captions
import LabelPress.Proofs.Document.Placement
import LabelPress.Proofs.Document.Framing
import LabelPress.Proofs.Document.Characters
import LabelPress.Proofs.Document.Injectivity
import LabelPress.Proofs.Document.Markup
import LabelPress.Proofs.Number.Exact
import LabelPress.Proofs.Pitch
import LabelPress.Proofs.Generation.Ending
import LabelPress.Proofs.Binary64.Canonical
import LabelPress.Proofs.Binary64.Shortest
import LabelPress.Proofs.Options.Doubles
import LabelPress.Proofs.Number.Plain
import LabelPress.Proofs.Document.Numerals
import LabelPress.Proofs.Files.Place
import LabelPress.Proofs.Files.Effect
import LabelPress.Proofs.AtomicWrite
import LabelPress.Proofs.AtomicWrite.Course
import LabelPress.Proofs.AtomicWrite.Crash
import LabelPress.Proofs.AtomicWrite.Store
import LabelPress.Proofs.CommandLine.Arguments
import LabelPress.Proofs.CommandLine.Run
import LabelPress.Proofs.CommandLine.AllOrNothing
import LabelPress.Proofs.CommandLine.Ending
import LabelPress.Proofs.Log.History
import LabelPress.Proofs.Log.Handlers
import LabelPress.Proofs.Log.Deliveries
import LabelPress.Proofs.Document.Batches
import LabelPress.Proofs.Document.Refitting
import LabelPress.Proofs.Document.Alike
import LabelPress.Proofs.Generation.Reports
import LabelPress.Proofs.Number.Whole
import LabelPress.Proofs.Options.Names
import LabelPress.Proofs.Options.Restated
import LabelPress.Proofs.Generation.Restated
import LabelPress.Proofs.Json.Text
import LabelPress.Proofs.Options.Details
import LabelPress.Proofs.Options.Fieldwise
import LabelPress.Proofs.Options.Notation
import LabelPress.Proofs.Options.Fields
import LabelPress.Proofs.Sources.OptionsFile
import LabelPress.Proofs.Text.Lines
import LabelPress.Proofs.Sources.Values
import LabelPress.Proofs.Record
import LabelPress.Proofs.Sources.Records
import LabelPress.Proofs.Csv
import LabelPress.Proofs.Json.Document
import LabelPress.Proofs.Sources.Tables
import LabelPress.Proofs.AtomicWrite.Failure
import LabelPress.Proofs.Json.Numerals
import LabelPress.Proofs.Json.PlainValues
import LabelPress.Proofs.Log.Context
import LabelPress.Proofs.Log.ContextHistory
import LabelPress.Proofs.Log.FailedSetups
import LabelPress.Proofs.Log.JsonLines
import LabelPress.Proofs.Log.Streams
import LabelPress.Proofs.Log.MaskedFields
import LabelPress.Proofs.Text.BreakRuns
import LabelPress.Proofs.Pitch.Rounding
import LabelPress.Proofs.Generation.Shortages
import LabelPress.Proofs.Text.LowerCase
import LabelPress.Proofs.Generation.Sizes
import LabelPress.Proofs.Page.Filling
