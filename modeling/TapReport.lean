import TapReport.Command.Console
import TapReport.Command.PlainConsole
import TapReport.Command.Request
import TapReport.Command.Run
import TapReport.Cursor
import TapReport.Data.Binary64
import TapReport.Data.Json
import TapReport.Data.Value
import TapReport.Fault
import TapReport.Files.Host
import TapReport.Files.Path
import TapReport.Files.Tree
import TapReport.LineParser.Basic
import TapReport.LineParser.Token
import TapReport.Main
import TapReport.Mismatch
import TapReport.Proofs.Command.PlainConsole
import TapReport.Proofs.Command.StandardInput
import TapReport.Proofs.Cursor.Iteration
import TapReport.Proofs.Data.Json
import TapReport.Proofs.Data.JsonText
import TapReport.Proofs.Files.Hosts
import TapReport.Proofs.Files.Places
import TapReport.Proofs.Line.Forms
import TapReport.Proofs.Line.Pattern
import TapReport.Proofs.LineParser.Alternatives
import TapReport.Proofs.LineParser.Blocks
import TapReport.Proofs.LineParser.Contract
import TapReport.Proofs.LineParser.Discipline
import TapReport.Proofs.LineParser.Grammar
import TapReport.Proofs.LineParser.Indentation
import TapReport.Proofs.LineParser.Nesting
import TapReport.Proofs.LineParser.Scopes
import TapReport.Proofs.LineParser.Simulation
import TapReport.Proofs.Report.Accounting
import TapReport.Proofs.Report.Canonical
import TapReport.Proofs.Report.Concatenation
import TapReport.Proofs.Report.Faults
import TapReport.Proofs.Report.FromFile
import TapReport.Proofs.Report.JoinedTitle
import TapReport.Proofs.Report.Limits
import TapReport.Proofs.Report.Plain
import TapReport.Proofs.Report.Refinement
import TapReport.Proofs.Report.Respaced
import TapReport.Proofs.Report.RoundTrip
import TapReport.Proofs.Report.Steps
import TapReport.Proofs.Report.Streamed
import TapReport.Proofs.Report.Summary
import TapReport.Proofs.Report.TestLine
import TapReport.Proofs.Report.Written
import TapReport.Proofs.Settings.Candidates
import TapReport.Proofs.Settings.Nearest
import TapReport.Proofs.Settings.Overrides
import TapReport.Proofs.Settings.Undecodable
import TapReport.Proofs.Settings.Unordered
import TapReport.Proofs.Stream.Chunking
import TapReport.Proofs.Stream.ForeignPieces
import TapReport.Proofs.Text.Utf8
import TapReport.Proofs.Toml.Depth
import TapReport.Proofs.Toml.Lines
import TapReport.Report.Document
import TapReport.Report.File
import TapReport.Report.Output
import TapReport.Report.Reader
import TapReport.Report.Source
import TapReport.Report.Title
import TapReport.Report.Unchecked
import TapReport.Settings.Basic
import TapReport.Settings.Search
import TapReport.Settings.Sources
import TapReport.Stream.Encoding
import TapReport.Stream.Lines
import TapReport.Surroundings
import TapReport.Text.Basic
import TapReport.Text.Blank
import TapReport.Text.ControlSequence
import TapReport.Text.Digit
import TapReport.Text.Numeral
import TapReport.Text.Printable
import TapReport.Text.Quoted
import TapReport.Text.Similarity
import TapReport.Text.Utf8
import TapReport.Text.Word
import TapReport.Toml.Document
import TapReport.Toml.Moment
import TapReport.Toml.Number
import TapReport.Toml.Scan
import TapReport.Toml.Value
