import ChatSieve.Catalogue
import ChatSieve.Channels
import ChatSieve.Cli.Arguments
import ChatSieve.Cli.Failure
import ChatSieve.Cli.Run
import ChatSieve.Cli.Session
import ChatSieve.Cli.Terminal
import ChatSieve.Color
import ChatSieve.Config
import ChatSieve.Evaluation
import ChatSieve.Expr
import ChatSieve.Expr.Eval
import ChatSieve.Expr.Source
import ChatSieve.Expr.Typing
import ChatSieve.Filter
import ChatSieve.Grammar.Error
import ChatSieve.Grammar.Literal
import ChatSieve.Grammar.Parser
import ChatSieve.Json
import ChatSieve.Json.Reader
import ChatSieve.Json.Writer
import ChatSieve.Main
import ChatSieve.Message
import ChatSieve.Message.Context
import ChatSieve.Message.Flag
import ChatSieve.Message.Json
import ChatSieve.Message.Log
import ChatSieve.Message.Timestamp
import ChatSieve.Pattern
import ChatSieve.Pattern.Node
import ChatSieve.Pattern.Program
import ChatSieve.Pattern.Reader
import ChatSieve.Pattern.Syntax
import ChatSieve.Proofs.Cli.Outcomes
import ChatSieve.Proofs.Expr.Addition
import ChatSieve.Proofs.Expr.Affixes
import ChatSieve.Proofs.Expr.Arithmetic
import ChatSieve.Proofs.Expr.Blame
import ChatSieve.Proofs.Expr.Containment
import ChatSieve.Proofs.Expr.Parts
import ChatSieve.Proofs.Expr.Position
import ChatSieve.Proofs.Expr.Soundness
import ChatSieve.Proofs.Expr.Truth
import ChatSieve.Proofs.Expr.Typing
import ChatSieve.Proofs.Grammar.Acceptance
import ChatSieve.Proofs.Grammar.Brackets
import ChatSieve.Proofs.Grammar.Calls
import ChatSieve.Proofs.Grammar.Canonical
import ChatSieve.Proofs.Grammar.Codec
import ChatSieve.Proofs.Grammar.Completeness
import ChatSieve.Proofs.Grammar.Composed
import ChatSieve.Proofs.Grammar.Conjunction
import ChatSieve.Proofs.Grammar.Deepest
import ChatSieve.Proofs.Grammar.Derivation
import ChatSieve.Proofs.Grammar.Discipline
import ChatSieve.Proofs.Grammar.Extension
import ChatSieve.Proofs.Grammar.Journal
import ChatSieve.Proofs.Grammar.Loops
import ChatSieve.Proofs.Grammar.Nesting
import ChatSieve.Proofs.Grammar.NormalForm
import ChatSieve.Proofs.Grammar.Operands
import ChatSieve.Proofs.Grammar.Partial
import ChatSieve.Proofs.Grammar.Readable
import ChatSieve.Proofs.Grammar.Reading
import ChatSieve.Proofs.Grammar.RoundTrip
import ChatSieve.Proofs.Grammar.Routine
import ChatSieve.Proofs.Grammar.Run
import ChatSieve.Proofs.Grammar.Snippet
import ChatSieve.Proofs.Grammar.Soundness
import ChatSieve.Proofs.Grammar.Source
import ChatSieve.Proofs.Json.Printed
import ChatSieve.Proofs.Json.Scalars
import ChatSieve.Proofs.Json.Spelling
import ChatSieve.Proofs.Message.Context
import ChatSieve.Proofs.Message.Json
import ChatSieve.Proofs.Message.Log
import ChatSieve.Proofs.Message.RoundTrip
import ChatSieve.Proofs.Message.Subscription
import ChatSieve.Proofs.Message.Timestamp
import ChatSieve.Proofs.Report.Lines
import ChatSieve.Proofs.Report.Listing
import ChatSieve.Proofs.Text.Characters
import ChatSieve.Proofs.Text.Decimal
import ChatSieve.Proofs.Text.Lines
import ChatSieve.Proofs.Text.Lowercase
import ChatSieve.Proofs.Text.Slice
import ChatSieve.Proofs.Token.Adjoining
import ChatSieve.Proofs.Token.Classification
import ChatSieve.Proofs.Token.Lexeme
import ChatSieve.Proofs.Token.Lossless
import ChatSieve.Proofs.Token.Names
import ChatSieve.Proofs.Token.Pairing
import ChatSieve.Proofs.Token.Quoting
import ChatSieve.Proofs.Token.Spacing
import ChatSieve.Proofs.Value.Color
import ChatSieve.Proofs.Value.Equality
import ChatSieve.Report.Listing
import ChatSieve.Report.Style
import ChatSieve.Report.Table
import ChatSieve.Report.Verdict
import ChatSieve.Text.Blank
import ChatSieve.Text.CodePoints
import ChatSieve.Text.Decimal
import ChatSieve.Text.Lines
import ChatSieve.Text.Lowercase
import ChatSieve.Text.LowercaseTable
import ChatSieve.Text.Search
import ChatSieve.Text.Slice
import ChatSieve.Text.Word
import ChatSieve.Token
import ChatSieve.Token.Cursor
import ChatSieve.Token.Kind
import ChatSieve.Token.Lexeme
import ChatSieve.Toml
import ChatSieve.Toml.Reader
import ChatSieve.Ty
import ChatSieve.Unicode.CaseFolding
import ChatSieve.Unicode.Category
import ChatSieve.Unicode.Property
import ChatSieve.Unicode.Script
import ChatSieve.Value
import ChatSieve.Value.Coercion
import ChatSieve.Value.Equality
import ChatSieve.Value.Json
import ChatSieve.Value.Text
