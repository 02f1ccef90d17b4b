import CodeMetrics.Binary64.Basic
import CodeMetrics.Binary64.Decimal
import CodeMetrics.Breakdown
import CodeMetrics.Command.Basic
import CodeMetrics.Command.Ending
import CodeMetrics.Command.Options
import CodeMetrics.Command.Request
import CodeMetrics.Command.Summary
import CodeMetrics.Corpus.Analysis
import CodeMetrics.Diagnostics.Sarif
import CodeMetrics.Fault
import CodeMetrics.Journal.Basic
import CodeMetrics.Journal.Entry
import CodeMetrics.Journal.Tree
import CodeMetrics.Json.Escape
import CodeMetrics.Json.Reader
import CodeMetrics.Json.Writer
import CodeMetrics.Main
import CodeMetrics.Markup.Parameters
import CodeMetrics.Markup.Render
import CodeMetrics.Markup.Style
import CodeMetrics.Record.Basic
import CodeMetrics.Record.Build
import CodeMetrics.Record.File
import CodeMetrics.Record.Reader
import CodeMetrics.Report.Basic
import CodeMetrics.Report.Mapping
import CodeMetrics.Report.Run
import CodeMetrics.Report.Section
import CodeMetrics.Report.Session
import CodeMetrics.Settings.Basic
import CodeMetrics.Settings.Environment
import CodeMetrics.Settings.Load
import CodeMetrics.Statistics.Arrange
import CodeMetrics.Statistics.Series
import CodeMetrics.Statistics.Sum
import CodeMetrics.Statistics.Summary
import CodeMetrics.Storage.Files
import CodeMetrics.Storage.Node
import CodeMetrics.Storage.Path
import CodeMetrics.Table.Heavy
import CodeMetrics.Table.Plain
import CodeMetrics.Text.Blank
import CodeMetrics.Text.Case
import CodeMetrics.Text.Digit
import CodeMetrics.Text.Emoji
import CodeMetrics.Text.Hexadecimal
import CodeMetrics.Text.Lines
import CodeMetrics.Text.Printable
import CodeMetrics.Text.Quoted
import CodeMetrics.Text.Ranges
import CodeMetrics.Text.Utf8
import CodeMetrics.Text.Width
import CodeMetrics.Text.Wrap
import CodeMetrics.Toml.Fault
import CodeMetrics.Toml.Reader
import CodeMetrics.Toml.Scalar
import CodeMetrics.Toml.Text
import CodeMetrics.Toml.Tree
import CodeMetrics.Value.Basic
import CodeMetrics.Value.Binding
import CodeMetrics.Value.Display
import CodeMetrics.Value.Moment
import CodeMetrics.Value.Order
import CodeMetrics.Proofs.Report.Run
import CodeMetrics.Proofs.Report.Section
import CodeMetrics.Proofs.Corpus.Analysis
import CodeMetrics.Proofs.Json.Plain
import CodeMetrics.Proofs.Diagnostics.Sarif
import CodeMetrics.Proofs.Report.Ending
import CodeMetrics.Proofs.Report.Modes
import CodeMetrics.Proofs.Report.Results
import CodeMetrics.Proofs.Statistics.Counts
import CodeMetrics.Proofs.Report.Session
import CodeMetrics.Proofs.Settings.Layers
import CodeMetrics.Proofs.Json.Number
import CodeMetrics.Proofs.Json.Text
import CodeMetrics.Proofs.Json.RoundTrip
import CodeMetrics.Proofs.Report.Document
import CodeMetrics.Proofs.Record.RoundTrip
import CodeMetrics.Proofs.Json.Reader
import CodeMetrics.Proofs.Storage.Path
import CodeMetrics.Proofs.Storage.Files
import CodeMetrics.Proofs.Command.Forms
import CodeMetrics.Proofs.Command.Line
import CodeMetrics.Proofs.Command.Report
import CodeMetrics.Proofs.Table.Plain
import CodeMetrics.Proofs.Report.Tables
import CodeMetrics.Proofs.Toml.Hexadecimal
import CodeMetrics.Proofs.Settings.Checks
import CodeMetrics.Proofs.Settings.Switches
import CodeMetrics.Proofs.Json.LongNumber
import CodeMetrics.Proofs.Record.Loading
import CodeMetrics.Proofs.Text.Glyphs
import CodeMetrics.Proofs.Text.Wrap
import CodeMetrics.Proofs.Markup.Literal
import CodeMetrics.Proofs.Command.ErrorLine
import CodeMetrics.Proofs.Corpus.Aggregation
import CodeMetrics.Proofs.Command.Logging
import CodeMetrics.Proofs.Journal.Session
import CodeMetrics.Proofs.Journal.Tree
import CodeMetrics.Proofs.Record.Shape
import CodeMetrics.Proofs.Report.Composition
import CodeMetrics.Proofs.Report.Thresholds
import CodeMetrics.Proofs.Report.Interruption
import CodeMetrics.Proofs.Binary64.Exact
import CodeMetrics.Proofs.Statistics.Stability
import CodeMetrics.Proofs.Settings.Spelling
import CodeMetrics.Proofs.Settings.Variables
import CodeMetrics.Proofs.Text.Ellipsis
import CodeMetrics.Proofs.Table.Layout
import CodeMetrics.Proofs.Table.Cuts
import CodeMetrics.Proofs.Report.Layout
import CodeMetrics.Proofs.Report.Ellipses
import CodeMetrics.Proofs.Journal.Sources
import CodeMetrics.Proofs.Binary64.Nearest
import CodeMetrics.Proofs.Binary64.Rounding
import CodeMetrics.Proofs.Binary64.Hundredths
import CodeMetrics.Proofs.Statistics.Sums
import CodeMetrics.Proofs.Statistics.Averages
import CodeMetrics.Proofs.Statistics.Rounded
import CodeMetrics.Proofs.Binary64.Zeros
import CodeMetrics.Proofs.Statistics.Kinds
import CodeMetrics.Proofs.Corpus.Equality
import CodeMetrics.Proofs.Record.Rejection
