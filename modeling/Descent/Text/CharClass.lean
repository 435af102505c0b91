import Descent.Text.Alphabetic
import Descent.Text.Cased
import Descent.Text.Numeric
import Descent.Text.WhiteSpace

/-!
# Character classes

The classes that predicates and the single-character text grammars test. The ASCII classes
are fixed ranges; the others follow the Unicode properties of the table modules, so that, for
instance, an Arabic-Indic digit is numeric and alphanumeric but no ASCII digit.
-/

namespace Descent.Text

/-- A class of characters. -/
inductive CharClass where
  | asciiDigit
  | alphabetic
  | alphanumeric
  | whiteSpace
  | lowercase
  | uppercase
  | numeric
  | asciiPunctuation
  | ascii
  | control
deriving DecidableEq, Inhabited

/-- Whether `c` is an ASCII punctuation or symbol character: the printable ASCII characters
that are neither letters, digits nor space. -/
def isAsciiPunctuation (c : Char) : Bool :=
  let n := c.toNat
  (0x21 ≤ n && n ≤ 0x2F) || (0x3A ≤ n && n ≤ 0x40) || (0x5B ≤ n && n ≤ 0x60) ||
    (0x7B ≤ n && n ≤ 0x7E)

/-- Whether `c` is a control character (general category Cc): the C0 controls, delete, and
the C1 controls. -/
def isControl (c : Char) : Bool :=
  c.toNat < 0x20 || (0x7F ≤ c.toNat && c.toNat ≤ 0x9F)

/-- Whether a character belongs to a class. -/
def CharClass.contains : CharClass → Char → Bool
  | .asciiDigit, c => '0' ≤ c && c ≤ '9'
  | .alphabetic, c => isAlphabetic c
  | .alphanumeric, c => isAlphabetic c || isNumeric c
  | .whiteSpace, c => isWhiteSpace c
  | .lowercase, c => isLowercase c
  | .uppercase, c => isUppercase c
  | .numeric, c => isNumeric c
  | .asciiPunctuation, c => isAsciiPunctuation c
  | .ascii, c => c.toNat < 0x80
  | .control, c => isControl c

end Descent.Text
