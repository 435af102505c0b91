/-!
# Description errors

Why a request or a grammar description is refused. `DescriptionError.message` holds every
text, so that each cause is named once and worded once.
-/

namespace Descent

/-- Why a description is refused. -/
inductive DescriptionError where
  | notObject
  | unknownKind (kind : String)
  | rulesNotObject
  | unknownOp (op : String)
  | missingParser
  | notParser
  | unknownParser (name : String)
  | textOnly (name : String)
  | needsListOf (key : String) (n : Nat)
  | literalNeedsString
  | mapNeedsName
  | unknownTransform (name : String)
  | tracedNeedsLabel
  | refNeedsName
  | unknownRule (name : String)
  | unknownPredicate (name : String)
  | notPredicate
  | needsInteger (key : String)
  | needsCount (key : String)
  | needsList (key : String)
  | inNeedsString
  | rangeNeedsPair
  | charNotString
  | charNotOneChar
  | intElementOutOfRange
  | tokenNotString
  | inputNotString
  | inputNotArray (kind : String)
  | startNotCount
  | missingSteps
  | stepNeedsDo
  | unknownStep (name : String)
  | stepNeedsParser (name : String)
  | emptySlot

/-- The text of a description error. -/
def DescriptionError.message : DescriptionError → String
  | .notObject => "request must be an object"
  | .unknownKind k => "unknown kind: " ++ k
  | .rulesNotObject => "rules must be an object"
  | .unknownOp op => "unknown op: " ++ op
  | .missingParser => "missing parser"
  | .notParser => "parser must be a string or a one-key object"
  | .unknownParser name => "unknown parser: " ++ name
  | .textOnly name => "text-only parser: " ++ name
  | .needsListOf key n => key ++ " needs a list of " ++ toString n
  | .literalNeedsString => "literal needs a string"
  | .mapNeedsName => "map needs a function name"
  | .unknownTransform name => "unknown map function: " ++ name
  | .tracedNeedsLabel => "traced needs a label"
  | .refNeedsName => "ref needs a rule name"
  | .unknownRule name => "unknown rule: " ++ name
  | .unknownPredicate name => "unknown predicate: " ++ name
  | .notPredicate => "predicate must be a string or a one-key object"
  | .needsInteger key => key ++ " needs an integer"
  | .needsCount key => key ++ " needs a count"
  | .needsList key => key ++ " needs a list"
  | .inNeedsString => "in needs a string"
  | .rangeNeedsPair => "range needs a list of 2"
  | .charNotString => "char literal must be a string"
  | .charNotOneChar => "char literal must be exactly one character"
  | .intElementOutOfRange => "int element must be an integer in i64 range"
  | .tokenNotString => "token must be a string"
  | .inputNotString => "text input must be a string"
  | .inputNotArray kind => kind ++ " input must be an array"
  | .startNotCount => "start must be a count"
  | .missingSteps => "missing steps"
  | .stepNeedsDo => "step needs \"do\""
  | .unknownStep name => "unknown step: " ++ name
  | .stepNeedsParser name => name ++ " step needs a parser"
  | .emptySlot => "empty slot"

end Descent
