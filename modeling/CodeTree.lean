import CodeTree.Main
import CodeTree.Alias.Loader
import CodeTree.Definition.Parts
import CodeTree.ParseTree.Basic
import CodeTree.Tree.Search
import CodeTree.Proofs.Number.Decimal
import CodeTree.Proofs.Number.Spelling
import CodeTree.Proofs.Number.Numeral
import CodeTree.Proofs.Sexpr.Reading
import CodeTree.Proofs.Sexpr.Lexical
import CodeTree.Proofs.Sexpr.Grammar
import CodeTree.Proofs.Sexpr.RoundTrip
import CodeTree.Proofs.Rule
import CodeTree.Proofs.Tree.Reshaping
import CodeTree.Proofs.Block
import CodeTree.Proofs.Operator
import CodeTree.Proofs.Alias.Renaming
import CodeTree.Proofs.Pass.Prettify
import CodeTree.Proofs.Pass.NormalForm
import CodeTree.Proofs.Pass.SecondRun
import CodeTree.Proofs.Definition.Form
import CodeTree.Proofs.Definition.Stable
import CodeTree.Proofs.Command.FixedPoint
import CodeTree.Proofs.Alias.Requests
import CodeTree.Proofs.Alias.Reversal
import CodeTree.Proofs.Definition.Agreement
import CodeTree.Proofs.Pass.Schedule
import CodeTree.Proofs.Sexpr.Scanning
import CodeTree.Proofs.Walk.Recursion
import CodeTree.Proofs.Sexpr.Failure
import CodeTree.Proofs.Sexpr.Concatenation
import CodeTree.Proofs.Pass.Ties
import CodeTree.Proofs.Definition.Parts
import CodeTree.Proofs.Definition.PartsOfForms
import CodeTree.Proofs.Operator.SpelledOut
import CodeTree.Proofs.Tree.Equivalence
import CodeTree.Proofs.Tree.Search
import CodeTree.Proofs.Definition.Restored
import CodeTree.Proofs.Sexpr.Layout
import CodeTree.Proofs.Block.Flattening
import CodeTree.Proofs.Block.Stripping
import CodeTree.Proofs.Sexpr.Quoting
import CodeTree.Proofs.Sexpr.Printable
import CodeTree.Proofs.Alias.Deterministic
import CodeTree.Proofs.Walk.Ending
import CodeTree.Proofs.ParseTree.Markers
import CodeTree.Proofs.Tree.Hashing
import CodeTree.Proofs.Alias.Freshness
import CodeTree.Proofs.Number.Typed
import CodeTree.Proofs.ParseTree.Places
import CodeTree.Proofs.ParseTree.Integers
