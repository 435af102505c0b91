/-!
# Transformations

The named transformations that a mapping grammar applies to the value of its inner grammar.
Each has the name by which descriptions call it and with which its faults are reported; what
each one does is in `Descent.Transform.Apply`.
-/

namespace Descent

/-- A named transformation of values. -/
inductive Transform where
  | id
  | unit
  | intoInner
  | isLeft
  | isRight
  | left
  | right
  | branch
  | string
  | int
  | digitValue
  | sum
  | product
  | len
  | neg
  | succ
  | optOrZero
  | fst
  | snd
  | signed
  | upper
  | lower
  | reverse
deriving DecidableEq, Inhabited

namespace Transform

/-- The name of a transformation in descriptions and in fault texts. -/
def name : Transform → String
  | .id => "id"
  | .unit => "unit"
  | .intoInner => "into_inner"
  | .isLeft => "is_left"
  | .isRight => "is_right"
  | .left => "left"
  | .right => "right"
  | .branch => "branch"
  | .string => "string"
  | .int => "int"
  | .digitValue => "digit_value"
  | .sum => "sum"
  | .product => "product"
  | .len => "len"
  | .neg => "neg"
  | .succ => "succ"
  | .optOrZero => "opt_or_zero"
  | .fst => "fst"
  | .snd => "snd"
  | .signed => "signed"
  | .upper => "upper"
  | .lower => "lower"
  | .reverse => "reverse"

/-- Every transformation, once. -/
def all : List Transform :=
  [.id, .unit, .intoInner, .isLeft, .isRight, .left, .right, .branch, .string, .int,
    .digitValue, .sum, .product, .len, .neg, .succ, .optOrZero, .fst, .snd, .signed, .upper,
    .lower, .reverse]

/-- The transformation of a name. -/
def ofName? (s : String) : Option Transform := all.find? fun t => t.name == s

end Transform

end Descent
