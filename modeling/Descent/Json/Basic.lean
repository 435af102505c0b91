import Descent.Word

/-!
# JSON trees

`Json` is the tree that requests are read into and answers are written from. A numeral with no
fraction and no exponent that fits a 64-bit word (signed and below zero when negative, unsigned
otherwise) is an integer; every other numeral, negative zero included, is kept as its text,
since no answer computes with it.
Objects hold each key once, in ascending order of code points, so two objects are equal
exactly when they have the same members.
-/

namespace Descent

/-- A JSON tree. The fields of an object are sorted by key and hold each key once. -/
inductive Json where
  | null
  | bool (b : Bool)
  | int (n : Int)
  | num (text : String)
  | str (s : String)
  | arr (items : List Json)
  | obj (fields : List (String × Json))
deriving Inhabited, BEq

namespace Json

/-- Add a field to a sorted field list, replacing the field of the same key if there is one. -/
def insertField (k : String) (v : Json) : List (String × Json) → List (String × Json)
  | [] => [(k, v)]
  | (k', v') :: fs =>
    if k < k' then (k, v) :: (k', v') :: fs
    else if k = k' then (k, v) :: fs
    else (k', v') :: insertField k v fs

/-- An object from fields in any order; of two fields with one key the later wins. -/
def ofFields (fs : List (String × Json)) : Json :=
  .obj (fs.foldl (fun acc f => insertField f.1 f.2 acc) [])

/-- The member of an object under `k`; `none` for a missing key or a tree that is no object. -/
def get? (j : Json) (k : String) : Option Json :=
  match j with
  | .obj fs => fs.lookup k
  | _ => none

/-- The only member of an object with exactly one key. -/
def single? : Json → Option (String × Json)
  | .obj [f] => some f
  | _ => none

/-- The text of a string. -/
def str? : Json → Option String
  | .str s => some s
  | _ => none

/-- The items of an array. -/
def arr? : Json → Option (List Json)
  | .arr items => some items
  | _ => none

/-- A boolean. -/
def bool? : Json → Option Bool
  | .bool b => some b
  | _ => none

/-- An integer numeral that fits a signed 64-bit word. -/
def int? : Json → Option Int
  | .int n => if Word.fits n then some n else none
  | _ => none

/-- An integer numeral that fits an unsigned 64-bit word: a count. -/
def count? : Json → Option Nat
  | .int n => if 0 ≤ n ∧ n < 18446744073709551616 then some n.toNat else none
  | _ => none

end Json

end Descent
