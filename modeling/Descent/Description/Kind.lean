import Descent.Json.Basic
import Descent.Element
import Descent.Description.Error

/-!
# Element kinds

A request names the kind of its input's elements: characters of a text, integers, or tokens.
The kind decides how element literals and inputs are read, which grammars apply (the
character grammars apply to texts only), and how what is left of an input is written.
-/

namespace Descent

/-- The kind of an input's elements. -/
inductive Kind where
  | text
  | ints
  | tokens
deriving DecidableEq, Inhabited

namespace Kind

/-- The kind of a name. -/
def ofName? : String → Option Kind
  | "text" => some .text
  | "ints" => some .ints
  | "tokens" => some .tokens
  | _ => none

/-- A character literal: a string of exactly one character. -/
def readChar : Json → Except DescriptionError Char
  | .str s =>
    match s.toList with
    | [c] => .ok c
    | _ => .error .charNotOneChar
  | _ => .error .charNotString

/-- An element literal of the kind. -/
def readElement : Kind → Json → Except DescriptionError Element
  | .text, j => Element.char <$> readChar j
  | .ints, j =>
    match j.int? with
    | some n => .ok (.int n)
    | none => .error .intElementOutOfRange
  | .tokens, j =>
    match j with
    | .str s => .ok (.token s)
    | _ => .error .tokenNotString

/-- An input of the kind: for a text a string, or an array of character literals; for the
other kinds an array of element literals. -/
def readInput : Kind → Json → Except DescriptionError (Array Element)
  | .text, .str s => .ok (s.toList.map Element.char).toArray
  | .text, .arr items => List.toArray <$> items.mapM (readElement .text)
  | .text, _ => .error .inputNotString
  | .ints, .arr items => List.toArray <$> items.mapM (readElement .ints)
  | .ints, _ => .error (.inputNotArray "ints")
  | .tokens, .arr items => List.toArray <$> items.mapM (readElement .tokens)
  | .tokens, _ => .error (.inputNotArray "tokens")

/-- Elements written as a sequence of the kind: a string for a text, an array otherwise. -/
def writeElements : Kind → List Element → Json
  | .text, es => .str (String.ofList (es.filterMap fun e => match e with
      | .char c => some c
      | _ => none))
  | _, es => .arr (es.map Element.toJson)

end Kind

end Descent
