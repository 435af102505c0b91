import Descent.Description.Grammar

/-!
# Requests

A request runs one grammar on an input from a starting offset, runs one grammar on the whole
input, or plays a script of cursor steps. Reading a request checks its parts in a fixed
order: the kind, the rules, the input, the operation, then the operation's own fields.

A script's grammars and other inputs are all read before any step runs; a step that is
malformed in another way (no `do`, an unknown `do`, a parse without a grammar) is refused only
when the script reaches it, so a fault in an earlier step ends the script first, and the events
of the steps before it are kept.
-/

namespace Descent

/-- One step of a cursor script. -/
inductive Step where
  | head
  | tail
  | tryTail
  | isEmpty
  | len
  | position
  | rest
  | source
  | inner
  | reset
  | save (slot : Nat)
  | load (slot : Nat)
  | eq (slot : Nat)
  | eqOther (other : Array Element)
  | parse (g : Grammar)
  | complete (g : Grammar)
  | refused (e : DescriptionError)

/-- What a request asks for. -/
inductive Task where
  | parse (g : Grammar) (start : Nat)
  | complete (g : Grammar)
  | script (steps : List Step)

/-- A request that has been read. -/
structure Request where
  kind : Kind
  rules : Rules
  input : Array Element
  trace : Bool
  task : Task

namespace Step

/-- The step that a `do` name describes, given the grammar and the other input read from the
same step, if it has them. A comparison with no other input compares with an empty one. -/
def ofName (slot : Nat) (grammar : Option Grammar)
    (other : Option (Array Element)) : String → Step
  | "head" => .head
  | "tail" => .tail
  | "try_tail" => .tryTail
  | "is_empty" => .isEmpty
  | "len" => .len
  | "position" => .position
  | "rest" => .rest
  | "source" => .source
  | "inner" => .inner
  | "reset" => .reset
  | "save" => .save slot
  | "load" => .load slot
  | "eq" => .eq slot
  | "eq_other" => .eqOther (other.getD #[])
  | "parse" =>
    match grammar with
    | some g => .parse g
    | none => .refused (.stepNeedsParser "parse")
  | "complete" =>
    match grammar with
    | some g => .complete g
    | none => .refused (.stepNeedsParser "complete")
  | name => .refused (.unknownStep name)

/-- The grammar of a step's `parser` field, if it has one. -/
def grammarOf (scope : Grammar.Scope) (j : Json) : Except DescriptionError (Option Grammar) :=
  match j.get? "parser" with
  | some p => some <$> Grammar.ofJson scope p
  | none => .ok none

/-- The input of a step's `other` field, if it has one. -/
def otherOf (kind : Kind) (j : Json) : Except DescriptionError (Option (Array Element)) :=
  match j.get? "other" with
  | some o => some <$> kind.readInput o
  | none => .ok none

/-- The steps of a script: first every grammar, then every other input, then the steps. -/
def listOfJson (kind : Kind) (scope : Grammar.Scope) (items : List Json) :
    Except DescriptionError (List Step) := do
  let grammars ← items.mapM (grammarOf scope)
  let others ← items.mapM (otherOf kind)
  pure <| (items.zip (grammars.zip others)).map fun (j, g, o) =>
    let slot := ((j.get? "slot").bind Json.count?).getD 0
    match (j.get? "do").bind Json.str? with
    | some name => ofName slot g o name
    | none => .refused .stepNeedsDo

end Step

namespace Request

/-- The grammar of a request's `parser` field. -/
def grammarOf (scope : Grammar.Scope) (j : Json) : Except DescriptionError Grammar :=
  match j.get? "parser" with
  | some p => Grammar.ofJson scope p
  | none => .error .missingParser

/-- The starting offset of a request's `start` field, zero if it has none. A whole-input run
checks the field too, and then starts at the beginning. -/
def startOf (j : Json) : Except DescriptionError Nat :=
  match j.get? "start" with
  | some s =>
    match s.count? with
    | some n => .ok n
    | none => .error .startNotCount
  | none => .ok 0

/-- Whether a request asks for the events of its run: its `trace` field is `true`. -/
def wantsTrace (j : Json) : Bool := ((j.get? "trace").bind Json.bool?).getD false

/-- The request a JSON tree describes. -/
def ofJson (j : Json) : Except DescriptionError Request := do
  let .obj _ := j | .error .notObject
  let kind ← match (j.get? "kind").bind Json.str? with
    | some name =>
      match Kind.ofName? name with
      | some k => .ok k
      | none => .error (.unknownKind name)
    | none => .ok .text
  let rules ← match j.get? "rules" with
    | some r => Rules.ofJson kind r
    | none => .ok []
  let input ← kind.readInput ((j.get? "input").getD .null)
  let scope : Grammar.Scope := ⟨kind, rules.map Prod.fst⟩
  let trace := wantsTrace j
  let task ← match ((j.get? "op").bind Json.str?).getD "parse" with
    | "parse" => do
      let g ← grammarOf scope j
      let start ← startOf j
      pure (Task.parse g start)
    | "complete" => do
      let g ← grammarOf scope j
      let _ ← startOf j
      pure (Task.complete g)
    | "cursor" =>
      match (j.get? "steps").bind Json.arr? with
      | some items => Task.script <$> Step.listOfJson kind scope items
      | none => .error .missingSteps
    | op => .error (.unknownOp op)
  pure ⟨kind, rules, input, trace, task⟩

end Request

end Descent
