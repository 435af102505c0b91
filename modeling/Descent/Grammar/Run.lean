import Descent.Grammar.Basic
import Descent.Parser.Repeat
import Descent.Transform.Apply

/-!
# Running grammars

`Grammar.eval expand g` is the parser of `g`, where `expand` gives the parser of a reference
to a rule. `Grammar.run rules g` is the parser of `g` with each reference expanded into its
rule, as deep as needed.

A parser's result is a function of the grammar and the cursor's position, so a reference that
expands, nested inside its own expansion, into the same rule at the same position would recur
forever. The expansions under way are kept with their positions (`active`), and a run that
would start one of them again stops as diverging. With `r` rules and `n` elements there are
`r * (n + 1)` pairs of rule and position, which bounds the nesting of expansions; `Grammar.run`
allows that depth (`depth`), so the count never runs out before a repeated pair is found.
-/

namespace Descent

namespace Grammar

/-- The parser of a grammar, references to rules taken to `expand`. -/
def eval (expand : String → Parser) : Grammar → Parser
  | .any => Parser.any
  | .endOfInput => Parser.endOfInput
  | .rewind => Parser.rewind
  | .accept e => Parser.accept e
  | .satisfy q => Parser.satisfy fun e => q.holds e.toValue
  | .literal s => Parser.literal s
  | .seq p q => Parser.seq (p.eval expand) (q.eval expand)
  | .seqLeft p q => Parser.seqLeft (p.eval expand) (q.eval expand)
  | .seqRight p q => Parser.seqRight (p.eval expand) (q.eval expand)
  | .alt p q => Parser.alt (p.eval expand) (q.eval expand)
  | .many p => Parser.many (p.eval expand)
  | .many1 p => Parser.many1 (p.eval expand)
  | .optional p => Parser.optional (p.eval expand)
  | .not p => Parser.not (p.eval expand)
  | .map p f => Parser.map (p.eval expand) f.apply
  | .filter p q => Parser.filter (p.eval expand) q.holds
  | .between l p r => Parser.between (l.eval expand) (p.eval expand) (r.eval expand)
  | .sepBy item sep => Parser.sepBy (item.eval expand) (sep.eval expand)
  | .traced p label => Parser.traced (p.eval expand) label
  | .lazy p => p.eval expand
  | .boxed p => p.eval expand
  | .ref name => expand name

/-- The parser of a reference to `name`: the rule's grammar, parsed by `next` with the rule and
the cursor's position added to the expansions under way, `active`. A rule already under way at
that position would expand again forever, and the run diverges. A name with no rule does not
match. -/
def expandRule (rules : Rules) (active : List (String × Nat))
    (next : List (String × Nat) → Grammar → Parser) (name : String) : Parser := fun c =>
  match rules.lookup name with
  | none => pure none
  | some h =>
    if (name, c.position) ∈ active then Run.stop .diverges
    else next ((name, c.position) :: active) h c

/-- The parser of a grammar with references expanded into their rules, nested at most
`fuel` deep, while the expansions in `active` are under way; a deeper expansion stops as
diverging. -/
def runWith (rules : Rules) : Nat → List (String × Nat) → Grammar → Parser
  | 0, active, g => g.eval (expandRule rules active fun _ _ _ => Run.stop .diverges)
  | fuel + 1, active, g => g.eval (expandRule rules active (runWith rules fuel))

/-- How deep expansions of `rules` can nest, from a cursor on `c`'s source, before a pair of
rule and position repeats. -/
def depth (rules : Rules) (c : Cursor Element) : Nat := rules.length * (c.source.size + 1)

/-- The parser of a grammar with references expanded into their rules. -/
def run (rules : Rules) (g : Grammar) : Parser := fun c => runWith rules (depth rules c) [] g c

end Grammar

end Descent
