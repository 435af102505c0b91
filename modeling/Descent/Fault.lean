import Descent.Cursor
import Descent.Transform

/-!
# Faults

A fault ends a run at once: a cursor stepped past its end, or a transformation given a value
it does not take, a text that is no decimal number, or arithmetic that leaves the word.
`Fault.message` holds every text of a fault.
-/

namespace Descent

/-- Why a run stopped with a fault. -/
inductive Fault where
  | atEnd (e : AtEnd)
  | mismatch (t : Transform)
  | notDecimal (text : String)
  | outOfRange (text : String)
  | notDigit
  | overflow (t : Transform)

/-- The text of a fault. -/
def Fault.message : Fault → String
  | .atEnd e => e.message
  | .mismatch t => t.name ++ ": unexpected value"
  | .notDecimal text => "int: not a decimal number: " ++ text
  | .outOfRange text => "int: out of range: " ++ text
  | .notDigit => "digit_value: not a digit"
  | .overflow t => t.name ++ ": overflow"

end Descent
