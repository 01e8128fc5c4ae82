import SearchQuery.Expr.Recursion
import SearchQuery.Main
import SearchQuery.QueryLog
import SearchQuery.Proofs.Lexer.MaximalMunch
import SearchQuery.Proofs.Lexer.Reachable
import SearchQuery.Proofs.Lexer.Simulation
import SearchQuery.Proofs.Lexer.Tiling
import SearchQuery.Proofs.Lexer.Tokens
import SearchQuery.Proofs.Parser.Admission
import SearchQuery.Proofs.Parser.Contents
import SearchQuery.Proofs.Parser.ErrorPlacement
import SearchQuery.Proofs.Parser.Grammar
import SearchQuery.Proofs.Parser.Readers
import SearchQuery.Proofs.RoundTrip.Nesting
import SearchQuery.Proofs.RoundTrip.ReadBack
import SearchQuery.Proofs.RoundTrip.Spelling
import SearchQuery.Proofs.Lexer.Composition
import SearchQuery.Proofs.Query.Diagnostics
import SearchQuery.Proofs.Files.Ancestors
import SearchQuery.Proofs.Query.Grouping
import SearchQuery.Proofs.Settings.Files
import SearchQuery.Proofs.Settings.Isolation
import SearchQuery.Proofs.Settings.Precedence
import SearchQuery.Proofs.Expr.Limits
import SearchQuery.Proofs.Command.Batch
import SearchQuery.Proofs.Command.Agreement
import SearchQuery.Proofs.Toml.Scanning
import SearchQuery.Proofs.Toml.Number
import SearchQuery.Proofs.Toml.Lines
import SearchQuery.Proofs.Settings.Template
import SearchQuery.Proofs.Files.Resolution
import SearchQuery.Proofs.Files.Writing
import SearchQuery.Proofs.Settings.Printing
import SearchQuery.Proofs.Settings.NewFile
import SearchQuery.Proofs.Command.Init
import SearchQuery.Proofs.Lexer.Padding
import SearchQuery.Proofs.Lexer.Refusal
import SearchQuery.Proofs.Query.Juxtaposition
import SearchQuery.Proofs.Lexer.Streaming
import SearchQuery.Proofs.Lexer.Eagerness
import SearchQuery.Proofs.Parser.ImpliedAnd
import SearchQuery.Proofs.Query.Padding
import SearchQuery.Proofs.Expr.Traversal
import SearchQuery.Proofs.Expr.Copying
import SearchQuery.Proofs.Text.PrefixCode
import SearchQuery.Proofs.Text.Json
import SearchQuery.Proofs.Expr.JsonText
import SearchQuery.Proofs.Expr.OutlineText
import SearchQuery.Proofs.Query.Hints
import SearchQuery.Proofs.RoundTrip.BareWord
import SearchQuery.Proofs.Settings.Merging
import SearchQuery.Proofs.Settings.Listing
import SearchQuery.Proofs.Settings.Sections
import SearchQuery.Proofs.Parser.Progress
