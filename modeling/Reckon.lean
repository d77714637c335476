import Reckon.Main
import Reckon.Service
import Reckon.Formula.Draft
import Reckon.Proofs.Grammar.Token
import Reckon.Proofs.Grammar.Derivation
import Reckon.Proofs.Formula.Phrase
import Reckon.Proofs.Formula.Completeness
import Reckon.Proofs.Grammar.Memory
import Reckon.Proofs.Grammar.Balance
import Reckon.Proofs.Formula.Depth
import Reckon.Proofs.Formula.Reading
import Reckon.Proofs.Formula.Faults
import Reckon.Proofs.Formula.Legality
import Reckon.Proofs.Judge
import Reckon.Proofs.Formula.Substitution
import Reckon.Proofs.Grammar.Record
import Reckon.Proofs.Grammar.Standing
import Reckon.Proofs.Grammar.Failure
import Reckon.Proofs.Formula.Misreading
import Reckon.Proofs.Grammar.Room
import Reckon.Proofs.Grammar.Course
import Reckon.Proofs.Grammar.Noting
import Reckon.Proofs.Formula.Interpreting
import Reckon.Proofs.Argument
import Reckon.Proofs.Double.Reading
import Reckon.Proofs.Double.Exact
import Reckon.Proofs.Text.Numeral
import Reckon.Proofs.Text.Encoding
import Reckon.Proofs.Json.Writing
import Reckon.Proofs.Target
import Reckon.Proofs.Options
import Reckon.Proofs.Service
import Reckon.Proofs.Text.Wrap
import Reckon.Proofs.Text.BoxedTable
import Reckon.Proofs.CommandLine
import Reckon.Proofs.Entrances
import Reckon.Proofs.Formula.Dependence
import Reckon.Proofs.Formula.Building
import Reckon.Proofs.Double.Value
import Reckon.Proofs.Double.Rounding
import Reckon.Proofs.Double.Truncation
import Reckon.Proofs.Double.Bitwise
import Reckon.Proofs.Formula.Bitwise
import Reckon.Proofs.Double.Remainder
import Reckon.Proofs.Double.Floor
import Reckon.Proofs.Formula.Arithmetic
import Reckon.Proofs.Double.Range
import Reckon.Proofs.Formula.Literal
