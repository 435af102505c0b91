import Descent.Value

/-!
# Elements

An input is a sequence of elements of one kind: characters of a text, word-sized integers, or
tokens (strings). A grammar that matches one element produces it as a value (`toValue`); a
token becomes a string value. In answers an element that stands for itself, as in what is
left of an input, is written plainly (`toJson`): a character as a one-character string, an
integer as a number, a token as a string.
-/

namespace Descent

/-- One element of an input. -/
inductive Element where
  | char (c : Char)
  | int (n : Int)
  | token (s : String)
deriving Inhabited, DecidableEq

namespace Element

/-- The value a grammar produces when it matches this element. -/
def toValue : Element → Value
  | .char c => .char c
  | .int n => .int n
  | .token s => .str s

/-- The element written plainly in answers. -/
def toJson : Element → Json
  | .char c => .str (String.singleton c)
  | .int n => .int n
  | .token s => .str s

end Element

end Descent
