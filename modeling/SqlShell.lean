import SqlShell.Catalog
import SqlShell.Execution.Batch
import SqlShell.Files.Tree
import SqlShell.Main
import SqlShell.Parsing.Batch
import SqlShell.Report.Aligned
import SqlShell.Report.JsonValue
import SqlShell.Settings.Load
import SqlShell.Shell.Script
import SqlShell.Terminal.Session
import SqlShell.Token.Lexing
import SqlShell.Proofs.Execution.Steps
import SqlShell.Proofs.Execution.WellFormed
import SqlShell.Proofs.Parsing.Relocation
import SqlShell.Proofs.Execution.Relocation
import SqlShell.Proofs.Numeral.Written
import SqlShell.Proofs.Numeral.Exact
import SqlShell.Proofs.Token.Spelling
import SqlShell.Proofs.Token.Scan
import SqlShell.Proofs.Parsing.Kinds
import SqlShell.Proofs.Shell.Sweep
import SqlShell.Proofs.Shell.Script
import SqlShell.Proofs.Dump.Text
import SqlShell.Proofs.Dump.Statements
import SqlShell.Proofs.Dump.Restore
import SqlShell.Proofs.Execution.Typing
import SqlShell.Proofs.Query.Order
import SqlShell.Proofs.Query.StableSort
import SqlShell.Proofs.Query.Projection
import SqlShell.Proofs.Query.Reference
import SqlShell.Proofs.Query.Select
import SqlShell.Proofs.Parsing.Grammar
import SqlShell.Proofs.Parsing.Stream
import SqlShell.Proofs.Token.Tiling
import SqlShell.Proofs.Shell.Collecting
import SqlShell.Proofs.Printing.Text
import SqlShell.Proofs.Printing.Expression
import SqlShell.Proofs.Printing.Statement
import SqlShell.Proofs.Printing.RoundTrip
import SqlShell.Proofs.Parsing.Predictive
import SqlShell.Proofs.Parsing.ViablePrefix
import SqlShell.Proofs.Execution.InPlace
import SqlShell.Proofs.Execution.Failures
import SqlShell.Proofs.Execution.Schema
import SqlShell.Proofs.Token.Cursor
import SqlShell.Proofs.Execution.Bounds
import SqlShell.Proofs.Execution.Locality
import SqlShell.Proofs.Execution.RowCounts
import SqlShell.Proofs.Execution.Soundness
import SqlShell.Proofs.Execution.Assignment
import SqlShell.Proofs.Execution.Formatting
import SqlShell.Proofs.Shell.Moments
import SqlShell.Proofs.Parsing.Gap
import SqlShell.Proofs.Shell.BehindGap
import SqlShell.Proofs.Shell.CommentLine
import SqlShell.Proofs.Execution.Conditions
import SqlShell.Proofs.Execution.Literals
import SqlShell.Proofs.Parsing.Walk
import SqlShell.Proofs.Parsing.StatementWalks
import SqlShell.Proofs.Parsing.Rewind
import SqlShell.Proofs.Token.BareName
import SqlShell.Proofs.Shell.Definition
import SqlShell.Proofs.Shell.TextLiteral
import SqlShell.Proofs.Numeral.OnePass
import SqlShell.Proofs.Token.Whole
import SqlShell.Proofs.Token.LetterCase
import SqlShell.Proofs.Token.LineBreak
import SqlShell.Proofs.Token.QuotedRun
import SqlShell.Proofs.Query.Comparison
import SqlShell.Proofs.Report.Layout
