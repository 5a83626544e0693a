import ClassTidy.Command.Arguments
import ClassTidy.Command.Classify
import ClassTidy.Command.Format
import ClassTidy.Command.Lint
import ClassTidy.Command.Outcome
import ClassTidy.Conflict.Default
import ClassTidy.Conflict.Merge
import ClassTidy.Conflict.Table
import ClassTidy.Decimal.Binary
import ClassTidy.Decimal.Shortest
import ClassTidy.Files.Path
import ClassTidy.Files.Tree
import ClassTidy.Files.Utf8
import ClassTidy.Format.Formatter
import ClassTidy.Format.Options
import ClassTidy.Group.Default
import ClassTidy.Group.Definition
import ClassTidy.Group.Registry
import ClassTidy.Json.Basic
import ClassTidy.Json.Display
import ClassTidy.Json.Reader
import ClassTidy.Json.Shape
import ClassTidy.Json.Writer
import ClassTidy.Lint.Check
import ClassTidy.Lint.File
import ClassTidy.Lint.Finding
import ClassTidy.Lint.Fix
import ClassTidy.Lint.Log
import ClassTidy.Lint.Options
import ClassTidy.Lint.Report
import ClassTidy.Main
import ClassTidy.Pattern.Basic
import ClassTidy.Pattern.CharClass
import ClassTidy.Pattern.Compile
import ClassTidy.Pattern.Error
import ClassTidy.Pattern.Match
import ClassTidy.Pattern.Reader.Basic
import ClassTidy.Pattern.Reader.Escape
import ClassTidy.Pattern.Reader.Group
import ClassTidy.Pattern.Reader.Item
import ClassTidy.Pattern.Reader.Piece
import ClassTidy.Pattern.Token
import ClassTidy.Proofs.ArgumentGrammar
import ClassTidy.Proofs.AttributeRewriting
import ClassTidy.Proofs.Attributes
import ClassTidy.Proofs.Calls
import ClassTidy.Proofs.CanonicalForm
import ClassTidy.Proofs.Changes
import ClassTidy.Proofs.Checking
import ClassTidy.Proofs.Encoding
import ClassTidy.Proofs.ExitCode
import ClassTidy.Proofs.Extraction
import ClassTidy.Proofs.Fallible
import ClassTidy.Proofs.FileText
import ClassTidy.Proofs.FixRuns
import ClassTidy.Proofs.FixedResults
import ClassTidy.Proofs.JsonText
import ClassTidy.Proofs.LiteralRuns
import ClassTidy.Proofs.Literals
import ClassTidy.Proofs.LocatorOrder
import ClassTidy.Proofs.MatchBounds
import ClassTidy.Proofs.Matching
import ClassTidy.Proofs.Memory
import ClassTidy.Proofs.Merging
import ClassTidy.Proofs.OptionDocuments
import ClassTidy.Proofs.PlainTokens
import ClassTidy.Proofs.Positions
import ClassTidy.Proofs.QuotedArguments
import ClassTidy.Proofs.QuotedRuns
import ClassTidy.Proofs.Regions
import ClassTidy.Proofs.Registries
import ClassTidy.Proofs.Repair
import ClassTidy.Proofs.ReportText
import ClassTidy.Proofs.RunSummary
import ClassTidy.Proofs.Runs
import ClassTidy.Proofs.ScanAgreement
import ClassTidy.Proofs.Splicing
import ClassTidy.Proofs.Swapping
import ClassTidy.Proofs.TokenOrder
import ClassTidy.Proofs.TreeShape
import ClassTidy.Proofs.Variants
import ClassTidy.Proofs.Visits
import ClassTidy.Proofs.Words
import ClassTidy.Setup
import ClassTidy.Sorting
import ClassTidy.Source.Attribute
import ClassTidy.Source.Literal
import ClassTidy.Source.Locator
import ClassTidy.Source.Paren
import ClassTidy.Text.Alphanumeric
import ClassTidy.Text.Basic
import ClassTidy.Text.Blank
import ClassTidy.Text.CaseFolding
import ClassTidy.Text.CharTable
import ClassTidy.Text.CharacterName
import ClassTidy.Text.CharacterNameTable
import ClassTidy.Text.DecimalDigit
import ClassTidy.Text.Identifier
import ClassTidy.Text.LineIndex
import ClassTidy.Text.Lowercase
import ClassTidy.Text.Numeral
import ClassTidy.Text.Printable
import ClassTidy.Text.Quoted
import ClassTidy.Token.Basic
import ClassTidy.Token.Memo
import ClassTidy.Token.Order
