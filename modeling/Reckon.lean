import Reckon.Main
import Reckon.Token.Spelling
import Reckon.Expr.Printer
import Reckon.Expr.Names
import Reckon.Expr.Exact
import Reckon.Typing
import Reckon.Proofs.Tokenization
import Reckon.Proofs.Derivation
import Reckon.Proofs.Viability
import Reckon.Proofs.Expectation
import Reckon.Proofs.Reading
import Reckon.Proofs.Segmentation
import Reckon.Proofs.Acceptance
import Reckon.Proofs.Independence
import Reckon.Proofs.LeftmostError
import Reckon.Proofs.Execution
import Reckon.Proofs.Bindings
import Reckon.Proofs.LineByLine
import Reckon.Proofs.Resumption
import Reckon.Proofs.Provenance
import Reckon.Proofs.OneLine
import Reckon.Proofs.Framing
import Reckon.Proofs.Depth
import Reckon.Proofs.RoundTrip
import Reckon.Proofs.Height
import Reckon.Proofs.Evaluation
import Reckon.Proofs.FirstFailure
import Reckon.Proofs.TypeSoundness
import Reckon.Proofs.Frame
import Reckon.Proofs.Reordering
import Reckon.Proofs.Substitution
import Reckon.Proofs.Arithmetic
import Reckon.Proofs.Dump
import Reckon.Proofs.Laziness
import Reckon.Proofs.Boundaries
import Reckon.Parser.Window
import Reckon.Proofs.Completion
import Reckon.Proofs.Lookahead
import Reckon.Proofs.Calls
