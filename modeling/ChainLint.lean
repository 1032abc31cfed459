import ChainLint.Source.Span
import ChainLint.Source.Expansion
import ChainLint.Report.Diagnostic
import ChainLint.Source.Sources
import ChainLint.Report.Fix
import ChainLint.Token.Lexer
import ChainLint.Surface.Parser
import ChainLint.Text.Escape
import ChainLint.Text.Numeral
import ChainLint.Tree.Build
import ChainLint.Tree.Preorder
import ChainLint.Tree.Number
import ChainLint.Tree.Scope
import ChainLint.Tree.OfText
import ChainLint.Ty.Infer
import ChainLint.Ty.Pool
import ChainLint.Lint.Text
import ChainLint.Command.Run
import ChainLint.Main
import ChainLint.Proofs.Tree.Resolution
import ChainLint.Proofs.Lint.Reports
import ChainLint.Proofs.Grammar.Balance
import ChainLint.Proofs.Tree.Plain
import ChainLint.Proofs.Tree.SourceOrder
import ChainLint.Proofs.Lint.Rounds
import ChainLint.Proofs.Lint.Fixing
import ChainLint.Proofs.Tree.Standalone
import ChainLint.Proofs.Tree.Readings
import ChainLint.Proofs.Tree.Faults
import ChainLint.Proofs.Tree.Lines
import ChainLint.Proofs.Tree.Renumbering
import ChainLint.Proofs.Ty.Mirroring
import ChainLint.Proofs.Grammar.Spacing
import ChainLint.Proofs.Lint.Spacing
import ChainLint.Proofs.Lint.Excerpt
import ChainLint.Proofs.Lint.Settled
import ChainLint.Proofs.Lint.Nested
import ChainLint.Proofs.Tree.AtomTokens
import ChainLint.Proofs.Command.Reporting
import ChainLint.Proofs.Command.Rewriting
import ChainLint.Proofs.Ty.Skipped
import ChainLint.Proofs.Ty.Entries
import ChainLint.Proofs.Lint.Choosing
import ChainLint.Proofs.Lint.Retyped
import ChainLint.Proofs.Report.Stretches
import ChainLint.Proofs.Report.Taking
import ChainLint.Proofs.Ty.Chained
import ChainLint.Proofs.Command.Previews
import ChainLint.Proofs.Grammar.Tails
import ChainLint.Proofs.Text.Escaping
import ChainLint.Proofs.Token.Alone
import ChainLint.Proofs.Tree.Tails
import ChainLint.Proofs.Grammar.Rows
import ChainLint.Proofs.Grammar.Terms
import ChainLint.Proofs.Tree.Endings
import ChainLint.Proofs.Tree.Terms
import ChainLint.Proofs.Tree.Semicolons
import ChainLint.Proofs.Ty.Entering
import ChainLint.Proofs.Ty.Copying
import ChainLint.Proofs.Ty.Namesakes
import ChainLint.Proofs.Ty.Literals
import ChainLint.Proofs.Tree.Index
