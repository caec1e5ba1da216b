import FieldFilter.Text.CodeRange
import FieldFilter.Text.Blank
import FieldFilter.Text.Digit
import FieldFilter.Text.Word
import FieldFilter.Text.Printable
import FieldFilter.Text.Case
import FieldFilter.Text.Width
import FieldFilter.Number.Binary64
import FieldFilter.Number.Numeral
import FieldFilter.Number.Shortest
import FieldFilter.Number.Layout
import FieldFilter.Calendar
import FieldFilter.Text.Quoted
import FieldFilter.Value.Basic
import FieldFilter.Value.Coercion
import FieldFilter.Filter.Operator
import FieldFilter.Filter.Node
import FieldFilter.Filter.Evaluate
import FieldFilter.Schema.FieldType
import FieldFilter.Schema.Field
import FieldFilter.Fault
import FieldFilter.Filter.Token
import FieldFilter.Filter.Expression
import FieldFilter.Filter.Render
import FieldFilter.Schema.Registry
import FieldFilter.Schema.Declaration
import FieldFilter.Filter.Build
import FieldFilter.Options.Lookup
import FieldFilter.Options.Resolver
import FieldFilter.Session
import FieldFilter.DecodeFault
import FieldFilter.Text.Hex
import FieldFilter.Text.Emoji
import FieldFilter.Text.Surrogate
import FieldFilter.Text.Loose
import FieldFilter.Json.Reader
import FieldFilter.Json.Writer
import FieldFilter.Toml.Branch
import FieldFilter.Toml.Datum
import FieldFilter.Toml.Lexeme
import FieldFilter.Toml.Statement
import FieldFilter.Toml.Document
import FieldFilter.Toml.Writer
import FieldFilter.Files.Path
import FieldFilter.Files.Tree
import FieldFilter.LoadFault
import FieldFilter.Schema.Document
import FieldFilter.Rows
import FieldFilter.Settings
import FieldFilter.Console.Message
import FieldFilter.Console.Markup
import FieldFilter.Console.Wrap
import FieldFilter.Console.Line
import FieldFilter.Console.Highlight
import FieldFilter.Console.Table
import FieldFilter.Command.Arguments
import FieldFilter.Command.Request
import FieldFilter.Command.Transcript
import FieldFilter.Command.Report
import FieldFilter.Command.Starter
import FieldFilter.Command.Program
import FieldFilter.Main
import FieldFilter.Proofs.History
import FieldFilter.Proofs.Options.Found
import FieldFilter.Proofs.Options.LastRequest
import FieldFilter.Proofs.Session.Operations
import FieldFilter.Proofs.Session.Run
import FieldFilter.Proofs.Session.Suggestions
import FieldFilter.Proofs.Session.Selection
import FieldFilter.Proofs.Session.Effect
import FieldFilter.Proofs.Session.Assembly
import FieldFilter.Proofs.Session.ChipList
import FieldFilter.Proofs.Session.Typed
import FieldFilter.Proofs.Session.Picking
import FieldFilter.Proofs.Session.Stale
import FieldFilter.Proofs.Session.Refusal
import FieldFilter.Proofs.Schema.Find
import FieldFilter.Proofs.Calendar
import FieldFilter.Proofs.Number.Exact
import FieldFilter.Proofs.Number.Range
import FieldFilter.Proofs.Number.Numeral
import FieldFilter.Proofs.Value.Settled
import FieldFilter.Proofs.Value.Day
import FieldFilter.Proofs.Value.DateText
import FieldFilter.Proofs.Value.NumberText
import FieldFilter.Proofs.Value.WholeNumber
import FieldFilter.Proofs.Filter.Conditions
import FieldFilter.Proofs.Filter.Total
import FieldFilter.Proofs.Filter.Passing
import FieldFilter.Proofs.Filter.Equality
import FieldFilter.Proofs.Filter.Contains
import FieldFilter.Proofs.Filter.Literal
import FieldFilter.Proofs.Filter.Meaning
import FieldFilter.Proofs.Filter.Order
import FieldFilter.Proofs.Filter.Chronology
import FieldFilter.Proofs.Filter.Storage
import FieldFilter.Proofs.Filter.Check
import FieldFilter.Proofs.Expression.Grammar
import FieldFilter.Proofs.Expression.Lexeme
import FieldFilter.Proofs.Expression.Parse
import FieldFilter.Proofs.Expression.Written
import FieldFilter.Proofs.Expression.RoundTrip
import FieldFilter.Proofs.Expression.Canonical
import FieldFilter.Proofs.Expression.Prefix
import FieldFilter.Proofs.Expression.Stop
import FieldFilter.Proofs.Expression.Operators
import FieldFilter.Proofs.Expression.Resolved
import FieldFilter.Proofs.Expression.Checked
import FieldFilter.Proofs.Attempt
import FieldFilter.Proofs.Text.Loose
import FieldFilter.Proofs.Text.Occurrence
import FieldFilter.Proofs.Text.Lower
import FieldFilter.Proofs.Json.Ascii
import FieldFilter.Proofs.Files.Path
import FieldFilter.Proofs.Files.Tree
import FieldFilter.Proofs.Toml.Line
import FieldFilter.Proofs.Toml.Draft
import FieldFilter.Proofs.Toml.Distinct
import FieldFilter.Proofs.Toml.Written
import FieldFilter.Proofs.Schema.Document
import FieldFilter.Proofs.Settings.Load
import FieldFilter.Proofs.Settings.Entries
import FieldFilter.Proofs.Settings.Save
import FieldFilter.Proofs.Command.Run
import FieldFilter.Proofs.Command.Starter
import FieldFilter.Proofs.Command.InitConfig
import FieldFilter.Proofs.Command.Startup
import FieldFilter.Proofs.Command.Conjunction
import FieldFilter.Proofs.Command.Filter
