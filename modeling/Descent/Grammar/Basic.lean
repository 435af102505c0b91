import Descent.Element
import Descent.Predicate
import Descent.Transform

/-!
# Grammars

A grammar is a parser written as data: a tree of combinators over single-element tests, with
named rules that a grammar may refer to, also recursively. `Descent.Grammar.Run` gives each
grammar its parser. Deferred and boxed grammars are written as they are described and parse as
their inner grammar.
-/

namespace Descent

open Text

/-- A grammar: a parser as a tree. -/
inductive Grammar where
  | any
  | endOfInput
  | rewind
  | accept (e : Element)
  | satisfy (p : Predicate)
  | literal (s : String)
  | seq (p q : Grammar)
  | seqLeft (p q : Grammar)
  | seqRight (p q : Grammar)
  | alt (p q : Grammar)
  | many (p : Grammar)
  | many1 (p : Grammar)
  | optional (p : Grammar)
  | not (p : Grammar)
  | map (p : Grammar) (f : Transform)
  | filter (p : Grammar) (q : Predicate)
  | between (l p r : Grammar)
  | sepBy (item sep : Grammar)
  | traced (p : Grammar) (label : String)
  | lazy (p : Grammar)
  | boxed (p : Grammar)
  | ref (name : String)
deriving Inhabited

/-- Named grammars, each name once. -/
abbrev Rules := List (String × Grammar)

namespace Grammar

/-- One character of a class. -/
def ofClass (k : CharClass) : Grammar := .satisfy (.inClass k)

/-- One ASCII digit. -/
def digit : Grammar := ofClass .asciiDigit

/-- One alphabetic character. -/
def letter : Grammar := ofClass .alphabetic

/-- One alphabetic or numeric character. -/
def alphanumeric : Grammar := ofClass .alphanumeric

/-- One white-space character. -/
def whitespace : Grammar := ofClass .whiteSpace

end Grammar

end Descent
