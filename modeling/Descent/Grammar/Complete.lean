import Descent.Grammar.Run

/-!
# Whole-input runs

A grammar run on a whole source either gives a value, having read every element, or does not
match, or stops early with elements left; `Completion` holds the three outcomes and their texts.
-/

namespace Descent

/-- The outcome of a grammar run on a whole source. -/
inductive Completion where
  | value (v : Value)
  | noMatch
  | incomplete (position remaining : Nat)

/-- The text of an outcome that is no value. -/
def Completion.message : Completion → String
  | .value _ => ""
  | .noMatch => "input did not match"
  | .incomplete p n =>
    "parser stopped at position " ++ toString p ++ " with " ++ toString n ++
      " element(s) unconsumed"

namespace Grammar

/-- Run a grammar on a whole source: its value if it matches and reads every element. -/
def complete (rules : Rules) (g : Grammar) (source : Array Element) : Run Completion := do
  match ← g.run rules (Cursor.start source) with
  | none => pure .noMatch
  | some (v, d) => pure (if d.isEmpty then .value v else .incomplete d.position d.remaining)

end Grammar

end Descent
