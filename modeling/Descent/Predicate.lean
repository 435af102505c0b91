import Descent.Value
import Descent.Text.CharClass

/-!
# Predicates on values

A predicate tests a value. A predicate about a kind of value that the value is not (a parity
test on a character, a character class on an integer) does not hold. Lengths are those of lists
and of strings in characters. An equality predicate compares the value's encoding with a JSON
tree, so it holds only of the value that encodes exactly as that tree.
-/

namespace Descent

open Text

/-- A test of values. -/
inductive Predicate where
  | always (b : Bool)
  | even
  | odd
  | inClass (k : CharClass)
  | eq (j : Json)
  | ne (j : Json)
  | lt (n : Int)
  | le (n : Int)
  | gt (n : Int)
  | ge (n : Int)
  | lenEq (n : Nat)
  | lenGe (n : Nat)
  | lenLe (n : Nat)
  | oneOf (chars : List Char)
  | intRange (lo hi : Int)
  | charRange (lo hi : Char)
  | not (p : Predicate)
  | all (ps : List Predicate)
  | any (ps : List Predicate)
deriving Inhabited

namespace Value

/-- The length of a list, or of a string in characters. -/
def length? : Value → Option Nat
  | .list items => some items.length
  | .str s => some s.length
  | _ => none

end Value

namespace Predicate

mutual

/-- Whether a value passes a predicate. -/
def holds : Predicate → Value → Bool
  | .always b, _ => b
  | .even, .int n => n % 2 == 0
  | .odd, .int n => n % 2 != 0
  | .inClass k, .char c => k.contains c
  | .eq j, v => v.toJson == j
  | .ne j, v => !(v.toJson == j)
  | .lt n, .int m => m < n
  | .le n, .int m => m ≤ n
  | .gt n, .int m => m > n
  | .ge n, .int m => m ≥ n
  | .lenEq n, v => v.length? == some n
  | .lenGe n, v => match v.length? with
    | some m => m ≥ n
    | none => false
  | .lenLe n, v => match v.length? with
    | some m => m ≤ n
    | none => false
  | .oneOf chars, .char c => chars.contains c
  | .intRange lo hi, .int n => lo ≤ n && n ≤ hi
  | .charRange lo hi, .char c => lo ≤ c && c ≤ hi
  | .not p, v => !p.holds v
  | .all ps, v => allHold ps v
  | .any ps, v => anyHolds ps v
  | _, _ => false

/-- Whether a value passes every predicate of a list. -/
def allHold : List Predicate → Value → Bool
  | [], _ => true
  | p :: ps, v => p.holds v && allHold ps v

/-- Whether a value passes some predicate of a list. -/
def anyHolds : List Predicate → Value → Bool
  | [], _ => false
  | p :: ps, v => p.holds v || anyHolds ps v

end

end Predicate

end Descent
