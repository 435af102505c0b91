import Descent.Parser.Basic

/-!
# Repetition

`many p` applies `p` as long as it matches and collects the values; it always matches.
`many1 p` does not match exactly when the first application does not. `sepBy item sep` needs
one item; after it, a separator followed by an item continues the list, and where either is
missing the list ends before the separator.

A parser's result is a function of its cursor alone, so a repetition that comes back to a
position it has started from before would go on forever. The loops below stop the run as
diverging as soon as a step leaves the position where it started: from there the same step would
match again forever. A step that moves back can still close a cycle of several steps; a source
of `n` elements has `n + 1` positions, so a repetition that ends makes at most `n` steps, and the
`budget` that the loops count down is never exhausted by one that ends.
-/

namespace Descent

namespace Parser

/-- How many steps a repetition from `c` can make and still end: one per position. -/
def budget (c : Cursor Element) : Nat := c.source.size + 1

/-- Apply `p` from `c` while it matches, appending the values to `acc`; the values and the
cursor where `p` first does not match. -/
def collect (p : Parser) : Nat → Array Value → Cursor Element → Run (Array Value × Cursor Element)
  | fuel, acc, c => do
    match ← p c with
    | none => pure (acc, c)
    | some (a, d) =>
      if d.position = c.position then Run.stop .diverges
      else
        match fuel with
        | 0 => Run.stop .diverges
        | fuel + 1 => collect p fuel (acc.push a) d

/-- Zero or more applications of `p`; the value is the list of theirs. -/
def many (p : Parser) : Parser := fun c => do
  let (vs, d) ← collect p (budget c) #[] c
  pure (some (.list vs.toList, d))

/-- One or more applications of `p`; the value is the list of theirs. -/
def many1 (p : Parser) : Parser := fun c => do
  match ← p c with
  | some (a, d) =>
    let (vs, e) ← collect p (budget d) #[a] d
    pure (some (.list vs.toList, e))
  | none => pure none

/-- While a separator and then an item match from `c`, append the item's value to `acc`; the
values and the cursor before the first separator that does not lead to an item. -/
def collectSeparated (item sep : Parser) :
    Nat → Array Value → Cursor Element → Run (Array Value × Cursor Element)
  | fuel, acc, c => do
    match ← sep c with
    | none => pure (acc, c)
    | some (_, d) =>
      match ← item d with
      | none => pure (acc, c)
      | some (a, e) =>
        if e.position = c.position then Run.stop .diverges
        else
          match fuel with
          | 0 => Run.stop .diverges
          | fuel + 1 => collectSeparated item sep fuel (acc.push a) e

/-- One item, then items each after a separator; the value is the list of the items'. -/
def sepBy (item sep : Parser) : Parser := fun c => do
  match ← item c with
  | some (a, d) =>
    let (vs, e) ← collectSeparated item sep (budget d) #[a] d
    pure (some (.list vs.toList, e))
  | none => pure none

end Parser

end Descent
