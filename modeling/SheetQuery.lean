import SheetQuery.Builtin
import SheetQuery.Calendar
import SheetQuery.Canonical
import SheetQuery.Check
import SheetQuery.CommandLine.Args
import SheetQuery.CommandLine.Command
import SheetQuery.CommandLine.Run
import SheetQuery.Compile
import SheetQuery.DataType
import SheetQuery.Diagnostic
import SheetQuery.Dialect
import SheetQuery.Expr.Basic
import SheetQuery.Expr.Outline
import SheetQuery.Expr.Parser
import SheetQuery.Expr.Printer
import SheetQuery.Expr.Tree
import SheetQuery.Fragment
import SheetQuery.Json.Basic
import SheetQuery.Json.Numeral
import SheetQuery.Json.Parser
import SheetQuery.Json.Printer
import SheetQuery.Json.Token
import SheetQuery.Main
import SheetQuery.Notice
import SheetQuery.Number.Basic
import SheetQuery.Number.Decimal
import SheetQuery.Number.Layout
import SheetQuery.Number.Shortest
import SheetQuery.Operator
import SheetQuery.Pattern.Basic
import SheetQuery.Pattern.Bracket
import SheetQuery.Pattern.Charset
import SheetQuery.Pattern.Escape
import SheetQuery.Pattern.Parser
import SheetQuery.Pattern.Parts
import SheetQuery.Pattern.Property
import SheetQuery.Pattern.Regular.Basic
import SheetQuery.Pattern.Regular.Parser
import SheetQuery.Pattern.Spread
import SheetQuery.Schema
import SheetQuery.Settings
import SheetQuery.Signature
import SheetQuery.Source
import SheetQuery.Sql.Arithmetic
import SheetQuery.Sql.Basic
import SheetQuery.Sql.Dates
import SheetQuery.Sql.Logic
import SheetQuery.Sql.Strings
import SheetQuery.Sql.Table
import SheetQuery.Summary
import SheetQuery.Text.Ascii
import SheetQuery.Text.Blank
import SheetQuery.Text.Hidden
import SheetQuery.Text.Letter
import SheetQuery.Text.Numeral
import SheetQuery.Text.Quoted
import SheetQuery.Text.Upper
import SheetQuery.TimeUnit
import SheetQuery.Token.Basic
import SheetQuery.Token.Lexer
import SheetQuery.Toml.Basic
import SheetQuery.Toml.Parser
import SheetQuery.Toml.Scalar
import SheetQuery.Typing
import SheetQuery.Proofs.Bindings
import SheetQuery.Proofs.Calls.Arithmetic
import SheetQuery.Proofs.Calls.Dates
import SheetQuery.Proofs.Calls.Logic
import SheetQuery.Proofs.Calls.Strings
import SheetQuery.Proofs.Calls.Table
import SheetQuery.Proofs.CanonicalForm
import SheetQuery.Proofs.Comments
import SheetQuery.Proofs.Dependencies
import SheetQuery.Proofs.Derivation
import SheetQuery.Proofs.Everywhere
import SheetQuery.Proofs.Faces
import SheetQuery.Proofs.FormulaText
import SheetQuery.Proofs.Grammar
import SheetQuery.Proofs.Grammar.Arithmetic
import SheetQuery.Proofs.Grammar.Dates
import SheetQuery.Proofs.Grammar.Logic
import SheetQuery.Proofs.Grammar.Places
import SheetQuery.Proofs.Grammar.Strings
import SheetQuery.Proofs.Grammar.Table
import SheetQuery.Proofs.Inlining
import SheetQuery.Proofs.Layout
import SheetQuery.Proofs.Layouts.Arithmetic
import SheetQuery.Proofs.Layouts.Dates
import SheetQuery.Proofs.Layouts.Logic
import SheetQuery.Proofs.Layouts.Strings
import SheetQuery.Proofs.Lexing
import SheetQuery.Proofs.LiteralContents
import SheetQuery.Proofs.OperandLaws
import SheetQuery.Proofs.Operands
import SheetQuery.Proofs.OperatorStructure
import SheetQuery.Proofs.Placeholders
import SheetQuery.Proofs.Placement
import SheetQuery.Proofs.Precedence
import SheetQuery.Proofs.Readback
import SheetQuery.Proofs.Shapes
import SheetQuery.Proofs.Terms
import SheetQuery.Proofs.Unwrapping
import SheetQuery.Proofs.Writing
import SheetQuery.Proofs.FormulaGrammar
import SheetQuery.Proofs.FormulaReading
import SheetQuery.Proofs.Meaning
import SheetQuery.Proofs.Notices
import SheetQuery.Proofs.NumberText
import SheetQuery.Proofs.PrintedTokens
import SheetQuery.Proofs.PrintedText
import SheetQuery.Proofs.Findings
import SheetQuery.Proofs.Sums
import SheetQuery.Proofs.Lexemes
import SheetQuery.Proofs.Weaving
import SheetQuery.Proofs.Renaming
import SheetQuery.Proofs.Tiles
import SheetQuery.Proofs.WovenCalls
import SheetQuery.Proofs.NormalForm
import SheetQuery.Proofs.Relabeling
import SheetQuery.Proofs.LetterCase
import SheetQuery.Proofs.Concatenation
import SheetQuery.Proofs.Truth
import SheetQuery.Proofs.Connectives
import SheetQuery.Proofs.Parentheses
import SheetQuery.Proofs.ByteReading
import SheetQuery.Proofs.Positions
import SheetQuery.Proofs.LiteralReading
import SheetQuery.Proofs.Parity
import SheetQuery.Proofs.Patterns
import SheetQuery.Proofs.Branches
import SheetQuery.Proofs.Splicing
import SheetQuery.Proofs.DateShifts
import SheetQuery.Proofs.Contribution
import SheetQuery.Proofs.TimeUnits
import SheetQuery.Proofs.NullBranches
import SheetQuery.Proofs.Evaluation
import SheetQuery.Proofs.Replacement
import SheetQuery.Proofs.LinkEscaping
import SheetQuery.Proofs.NumberStripping
import SheetQuery.Proofs.ExactRounding
import SheetQuery.Proofs.FirstOccurrences
import SheetQuery.Proofs.InlineComposition
import SheetQuery.Proofs.Substrings
import SheetQuery.Proofs.BlankTests
