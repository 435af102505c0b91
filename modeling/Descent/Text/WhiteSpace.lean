import Descent.Text.Ranges

/-!
# White space

The property White_Space of the Unicode standard, version 17.0: the ASCII blanks and controls
from tab to carriage return, next line, no-break space, and the spaces and separators of the
other blocks.
-/

namespace Descent.Text

/-- Code points with the property White_Space, as ascending closed ranges that neither overlap nor touch. -/
def whiteSpaceRanges : Array (Nat × Nat) := #[
  (0x9, 0xD), (0x20, 0x20), (0x85, 0x85), (0xA0, 0xA0), (0x1680, 0x1680), (0x2000, 0x200A),
  (0x2028, 0x2029), (0x202F, 0x202F), (0x205F, 0x205F), (0x3000, 0x3000)]

/-- Whether `c` has the property White_Space. -/
def isWhiteSpace (c : Char) : Bool := inRanges whiteSpaceRanges c

end Descent.Text
