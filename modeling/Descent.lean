import Descent.Word
import Descent.Json.Basic
import Descent.Json.Numeral
import Descent.Json.ReadError
import Descent.Json.Read
import Descent.Json.Write
import Descent.Text.Ranges
import Descent.Text.Alphabetic
import Descent.Text.Cased
import Descent.Text.Numeric
import Descent.Text.WhiteSpace
import Descent.Text.CharClass
import Descent.Value
import Descent.Element
import Descent.Cursor
import Descent.Predicate
import Descent.Transform
import Descent.Fault
import Descent.Transform.Apply
import Descent.Run
import Descent.Parser.Basic
import Descent.Parser.Repeat
import Descent.Grammar.Basic
import Descent.Grammar.Run
import Descent.Grammar.Complete
import Descent.Description.Error
import Descent.Description.Kind
import Descent.Description.Predicate
import Descent.Description.Grammar
import Descent.Session.Request
import Descent.Session.Answer
import Descent.Proofs.Keep
import Descent.Proofs.Reachable
import Descent.Proofs.Consume
import Descent.Proofs.Approx
import Descent.Proofs.Shift
import Descent.Proofs.Termination
import Descent.Proofs.Report
import Descent.Proofs.Bracket
import Descent.Proofs.FaultOrigin
import Descent.Proofs.Separated
import Descent.Proofs.Unwrap
import Descent.Proofs.Compose
import Descent.Proofs.Repetition
import Descent.Proofs.Whole
import Descent.Proofs.Algebra
import Descent.Proofs.Literal
import Descent.Proofs.ReadBound
