import Descent.Grammar.Basic
import Descent.Description.Predicate
import Descent.Transform

/-!
# Reading grammars

A grammar is described by a name (`"any"`, `"digit"`, ...) or by an object with one key whose
argument holds the parts (`{"seq": [a, b]}`, `{"many": p}`, `{"map": [p, "int"]}`, ...). Parts
are read left to right, except that a mapping, a filter and a labelled grammar check their
transformation, predicate or label before their inner grammar. A reference must name one of the
rules of the request. The character grammars, and literals, are for texts only.

Rules are read in the order of their names, each one whether any grammar refers to it or not.
-/

namespace Descent

namespace Grammar

/-- What reading a grammar depends on: the kind of the input and the names of the rules. -/
structure Scope where
  kind : Kind
  ruleNames : List String

/-- The grammar of a bare name. A bare "literal" is a literal without its text. -/
def ofName (kind : Kind) (name : String) : Except DescriptionError Grammar :=
  match name with
  | "any" => .ok .any
  | "end" => .ok .endOfInput
  | "rewind" => .ok .rewind
  | _ =>
    if kind ≠ .text then .error (.textOnly name)
    else
      match name with
      | "digit" => .ok digit
      | "letter" => .ok letter
      | "alphanumeric" => .ok alphanumeric
      | "whitespace" => .ok whitespace
      | "literal" => .error .literalNeedsString
      | _ => .error (.unknownParser name)

/-- The combinator of a key whose argument is two grammars. -/
def binary? : String → Option (Grammar → Grammar → Grammar)
  | "seq" | "and" => some .seq
  | "seq_left" | "then_ignore" => some .seqLeft
  | "seq_right" | "ignore_then" => some .seqRight
  | "or" | "alt" => some .alt
  | "sep_by" => some .sepBy
  | _ => none

/-- The combinator of a key whose argument is one grammar. -/
def unary? : String → Option (Grammar → Grammar)
  | "many" | "many_m" => some .many
  | "many1" | "many1_m" => some .many1
  | "optional" | "optional_m" => some .optional
  | "not" => some .not
  | "lazy" => some .lazy
  | "boxed" => some .boxed
  | _ => none

/-- The grammar a JSON tree describes. -/
def ofJson (scope : Scope) : Json → Except DescriptionError Grammar
  | .str name => ofName scope.kind name
  | .obj [(key, arg)] =>
    match binary? key, unary? key with
    | some mk, _ =>
      match arg with
      | .arr [a, b] => do
        let p ← ofJson scope a
        let q ← ofJson scope b
        pure (mk p q)
      | _ => .error (.needsListOf key 2)
    | none, some mk => mk <$> ofJson scope arg
    | none, none =>
      match key, arg with
      | "accept", j => Grammar.accept <$> scope.kind.readElement j
      | "accept_if", j => Grammar.satisfy <$> Predicate.ofJson j
      | "literal", j =>
        if scope.kind ≠ .text then .error (.textOnly "literal")
        else
          match j with
          | .str s => .ok (.literal s)
          | _ => .error .literalNeedsString
      | "map", .arr [a, f] =>
        match f with
        | .str name =>
          match Transform.ofName? name with
          | some t => (Grammar.map · t) <$> ofJson scope a
          | none => .error (.unknownTransform name)
        | _ => .error .mapNeedsName
      | "filter", .arr [a, q] => do
        let q ← Predicate.ofJson q
        let p ← ofJson scope a
        pure (.filter p q)
      | "traced", .arr [a, l] =>
        match l with
        | .str label => (Grammar.traced · label) <$> ofJson scope a
        | _ => .error .tracedNeedsLabel
      | "traced_m", .arr [a, l] =>
        match l with
        | .str label => (Grammar.traced · label) <$> ofJson scope a
        | _ => .error .tracedNeedsLabel
      | "filter_m", .arr [a, q] => do
        let q ← Predicate.ofJson q
        let p ← ofJson scope a
        pure (.filter p q)
      | "between", .arr [l, a, r] => do
        let l ← ofJson scope l
        let p ← ofJson scope a
        let r ← ofJson scope r
        pure (.between l p r)
      | "ref", .str name =>
        if scope.ruleNames.contains name then .ok (.ref name) else .error (.unknownRule name)
      | "ref", _ => .error .refNeedsName
      | "map", _ => .error (.needsListOf "map" 2)
      | "filter", _ => .error (.needsListOf "filter" 2)
      | "filter_m", _ => .error (.needsListOf "filter_m" 2)
      | "traced", _ => .error (.needsListOf "traced" 2)
      | "traced_m", _ => .error (.needsListOf "traced_m" 2)
      | "between", _ => .error (.needsListOf "between" 3)
      | _, _ => .error (.unknownParser key)
  | _ => .error .notParser

end Grammar

namespace Rules

/-- The rules an object describes, read in the order of their names. -/
def ofJson (kind : Kind) : Json → Except DescriptionError Rules
  | .obj fields =>
    let scope : Grammar.Scope := ⟨kind, fields.map Prod.fst⟩
    fields.mapM fun f => do
      let g ← Grammar.ofJson scope f.2
      pure (f.1, g)
  | _ => .error .rulesNotObject

end Rules

end Descent
