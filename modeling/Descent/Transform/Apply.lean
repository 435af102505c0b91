import Descent.Predicate
import Descent.Fault
import Descent.Word

/-!
# Applying transformations

`Transform.apply` gives the value a transformation makes of a value, or the fault it raises.
A transformation given a kind of value it does not take raises `mismatch`; reading a number
takes the text of its value as `string` does, and so raises the mismatch of `string`. A sum or
product looks at every item before it adds or multiplies. Arithmetic is on
words and checked: a result outside the word raises `overflow`. Reading a decimal number takes
a non-empty run of ASCII digits and nothing else, so a sign is refused.
-/

namespace Descent

namespace Value

/-- The text of a character or a string. -/
def piece? : Value → Option String
  | .char c => some (String.singleton c)
  | .str s => some s
  | _ => none

/-- The text that a character, a string, or a list of characters and strings spells. -/
def text? : Value → Option String
  | .list items => (items.mapM piece?).map String.join
  | v => v.piece?

/-- The integer of an integer value. -/
def int? : Value → Option Int
  | .int n => some n
  | _ => none

end Value

namespace Transform

/-- The decimal number that a text of ASCII digits writes, if it fits a word. -/
def readDecimal (s : String) : Except Fault Value :=
  let ds := s.toList
  if ds.isEmpty || !ds.all Char.isDigit then .error (.notDecimal s)
  else
    let n : Nat := ds.foldl (fun n d => 10 * n + (d.toNat - '0'.toNat)) 0
    if Word.fits n then .ok (.int n) else .error (.outOfRange s)

/-- An integer result of `t`, or an overflow of `t` outside the word. -/
def checked (t : Transform) (n : Int) : Except Fault Value :=
  match Word.checked? n with
  | some m => .ok (.int m)
  | none => .error (.overflow t)

/-- Combine integers into `acc` one by one with `op`, checking each partial result. -/
def foldChecked (t : Transform) (op : Int → Int → Int) : Int → List Int → Except Fault Value
  | acc, [] => .ok (.int acc)
  | acc, n :: ns =>
    match Word.checked? (op acc n) with
    | some m => foldChecked t op m ns
    | none => .error (.overflow t)

/-- Combine the items of a list, which must all be integers, into `acc` with `op`; an item
that is no integer is a mismatch, found before any arithmetic is done. -/
def fold (t : Transform) (op : Int → Int → Int) (acc : Int) (items : List Value) :
    Except Fault Value :=
  match items.mapM Value.int? with
  | some ns => foldChecked t op acc ns
  | none => .error (.mismatch t)

/-- The value a transformation makes of a value, or the fault it raises. -/
def apply : Transform → Value → Except Fault Value
  | .id, v => .ok v
  | .unit, _ => .ok .unit
  | .intoInner, .left v => .ok v
  | .intoInner, .right v => .ok v
  | .isLeft, .left _ => .ok (.bool true)
  | .isLeft, .right _ => .ok (.bool false)
  | .isRight, .left _ => .ok (.bool false)
  | .isRight, .right _ => .ok (.bool true)
  | .left, .left v => .ok (.present v)
  | .left, .right _ => .ok .absent
  | .right, .left _ => .ok .absent
  | .right, .right v => .ok (.present v)
  | .branch, .left _ => .ok (.str "left")
  | .branch, .right _ => .ok (.str "right")
  | .string, v =>
    match v.text? with
    | some s => .ok (.str s)
    | none => .error (.mismatch .string)
  | .int, v =>
    match v.text? with
    | some s => readDecimal s
    | none => .error (.mismatch .string)
  | .digitValue, .char c =>
    if c.isDigit then .ok (.int (c.toNat - '0'.toNat)) else .error .notDigit
  | .sum, .list items => fold .sum (· + ·) 0 items
  | .product, .list items => fold .product (· * ·) 1 items
  | .len, v =>
    match v.length? with
    | some n => .ok (.int n)
    | none => .error (.mismatch .len)
  | .neg, .int n => checked .neg (-n)
  | .succ, .int n => checked .succ (n + 1)
  | .optOrZero, .absent => .ok (.int 0)
  | .optOrZero, .present v => .ok v
  | .fst, .pair a _ => .ok a
  | .snd, .pair _ b => .ok b
  | .signed, .pair .absent (.int n) => .ok (.int n)
  | .signed, .pair (.present _) (.int n) => checked .signed (-n)
  | .upper, .char c => .ok (.char c.toUpper)
  | .lower, .char c => .ok (.char c.toLower)
  | .reverse, .list items => .ok (.list items.reverse)
  | t, _ => .error (.mismatch t)

end Transform

end Descent
