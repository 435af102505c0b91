/-!
# Words

The integers that elements and values hold are those of a signed 64-bit word. Arithmetic on
them is checked: a result outside the word is an overflow, never a wrapped number.
-/

namespace Descent.Word

/-- The least integer of a word. -/
def least : Int := -9223372036854775808

/-- The greatest integer of a word. -/
def greatest : Int := 9223372036854775807

/-- Whether an integer fits a word. -/
def fits (n : Int) : Bool := least ≤ n && n ≤ greatest

/-- An integer that fits a word, or `none` for an overflow. -/
def checked? (n : Int) : Option Int := if fits n then some n else none

end Descent.Word
