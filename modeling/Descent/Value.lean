import Descent.Json.Basic

/-!
# Values

A `Value` is what a grammar produces: a character, a word-sized integer or a string read from
the input, the unit of a lookahead, a truth value, a pair from a sequence, a list from a
repetition, an optional value, or a value tagged by the branch of a choice that produced it.

`Value.toJson` is the one encoding of values in answers, and also what an equality predicate
compares: a character is a one-character string, a string is `{"str": s}`, a pair a two-item
array, a list `{"list": [...]}`, an absent option `null`, a present one `{"some": v}`, and a
choice `{"left": v}` or `{"right": v}`.
-/

namespace Descent

/-- What a grammar produces. -/
inductive Value where
  | char (c : Char)
  | int (n : Int)
  | str (s : String)
  | unit
  | bool (b : Bool)
  | pair (a b : Value)
  | list (items : List Value)
  | absent
  | present (v : Value)
  | left (v : Value)
  | right (v : Value)
deriving Inhabited

namespace Value

mutual

/-- The JSON tree of a value in answers. -/
def toJson : Value → Json
  | .char c => .str (String.singleton c)
  | .int n => .int n
  | .str s => .obj [("str", .str s)]
  | .unit => .obj [("unit", .null)]
  | .bool b => .bool b
  | .pair a b => .arr [a.toJson, b.toJson]
  | .list items => .obj [("list", .arr (listToJson items))]
  | .absent => .null
  | .present v => .obj [("some", v.toJson)]
  | .left v => .obj [("left", v.toJson)]
  | .right v => .obj [("right", v.toJson)]

/-- The JSON trees of the items of a list value. -/
def listToJson : List Value → List Json
  | [] => []
  | v :: vs => v.toJson :: listToJson vs

end

end Value

end Descent
