import Descent.Predicate
import Descent.Description.Kind

/-!
# Reading predicates

A predicate is described by a name (`"even"`, `"is_alphabetic"`, ...) or by an object with one
key (`{"lt": 5}`, `{"not": p}`, ...). Reading checks the argument of each key and names the key
in its error.
-/

namespace Descent

open Text

namespace Predicate

/-- The character class of a predicate name. -/
def classOfName? : String → Option CharClass
  | "is_ascii_digit" => some .asciiDigit
  | "is_alphabetic" => some .alphabetic
  | "is_alphanumeric" => some .alphanumeric
  | "is_whitespace" => some .whiteSpace
  | "is_lowercase" => some .lowercase
  | "is_uppercase" => some .uppercase
  | "is_numeric" => some .numeric
  | "is_ascii_punctuation" => some .asciiPunctuation
  | "is_ascii" => some .ascii
  | "is_control" => some .control
  | _ => none

/-- The predicate of a name. -/
def ofName (name : String) : Except DescriptionError Predicate :=
  match name with
  | "true" => .ok (.always true)
  | "false" => .ok (.always false)
  | "even" => .ok .even
  | "odd" => .ok .odd
  | _ =>
    match classOfName? name with
    | some k => .ok (.inClass k)
    | none => .error (.unknownPredicate name)

/-- A comparison with an integer. -/
def comparison (key : String) (mk : Int → Predicate) (arg : Json) :
    Except DescriptionError Predicate :=
  match arg.int? with
  | some n => .ok (mk n)
  | none => .error (.needsInteger key)

/-- A test of a length. -/
def lengthTest (key : String) (mk : Nat → Predicate) (arg : Json) :
    Except DescriptionError Predicate :=
  match arg.count? with
  | some n => .ok (mk n)
  | none => .error (.needsCount key)

/-- An inclusive range: of integers if both bounds are integers, else of characters. -/
def range (arg : Json) : Except DescriptionError Predicate :=
  match arg with
  | .arr [lo, hi] =>
    match lo.int?, hi.int? with
    | some a, some b => .ok (.intRange a b)
    | _, _ => do
      let a ← Kind.readChar lo
      let b ← Kind.readChar hi
      pure (.charRange a b)
  | _ => .error .rangeNeedsPair

mutual

/-- The predicate a JSON tree describes. -/
def ofJson : Json → Except DescriptionError Predicate
  | .str name => ofName name
  | .obj [(key, arg)] => ofKey key arg
  | _ => .error .notPredicate

/-- The predicate of a one-key object. -/
def ofKey : String → Json → Except DescriptionError Predicate
  | "eq", j => .ok (.eq j)
  | "ne", j => .ok (.ne j)
  | "lt", j => comparison "lt" .lt j
  | "le", j => comparison "le" .le j
  | "gt", j => comparison "gt" .gt j
  | "ge", j => comparison "ge" .ge j
  | "len_eq", j => lengthTest "len_eq" .lenEq j
  | "len_ge", j => lengthTest "len_ge" .lenGe j
  | "len_le", j => lengthTest "len_le" .lenLe j
  | "in", .str s => .ok (.oneOf s.toList)
  | "in", _ => .error .inNeedsString
  | "range", j => range j
  | "not", j => Predicate.not <$> ofJson j
  | "all", .arr ps => Predicate.all <$> listOfJson ps
  | "all", _ => .error (.needsList "all")
  | "any", .arr ps => Predicate.any <$> listOfJson ps
  | "any", _ => .error (.needsList "any")
  | key, _ => .error (.unknownPredicate key)

/-- The predicates of a list of trees, read in order. -/
def listOfJson : List Json → Except DescriptionError (List Predicate)
  | [] => .ok []
  | j :: js => do
    let p ← ofJson j
    let ps ← listOfJson js
    pure (p :: ps)

end

end Predicate

end Descent
