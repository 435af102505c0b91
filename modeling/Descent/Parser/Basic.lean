import Descent.Element
import Descent.Cursor
import Descent.Run

/-!
# Parsers

A parser reads from a cursor over elements. It matches, giving a value and the cursor after
what it read, or it does not match; meanwhile it may report events, and it may stop a run with
a fault. Parsers are built from one-element tests and a few combinators:

* a sequence runs its second part on the cursor the first part leaves, and never splits the
  input any other way;
* an ordered choice runs its second branch on the cursor it was given, and only if the first
  branch does not match; the value is tagged with the branch that matched;
* an option, a negative lookahead and a filter that do not match leave the cursor where it was;
* a labelled parser reports an attempt at its position, then how many elements it consumed,
  or that it did not match.

A one-element test and a literal look at the head before they step past it (`tail`). A step
past the end of the input would stop the run with a fault; since they step only past a head
that is there, they never stop and report nothing (`satisfy_eq`, `literal_eq`).

Repetition is in `Descent.Parser.Repeat`.
-/

namespace Descent

/-- What a parser gives when it matches: a value and the cursor after what it read. -/
abbrev Outcome := Option (Value × Cursor Element)

/-- A parser: from a cursor, a run that matches or does not. -/
abbrev Parser := Cursor Element → Run Outcome

namespace Parser

/-- The cursor one past the head, as a step of a run. Past the end there is no such cursor:
the run stops with the fault of a step past the end, at the cursor's position. -/
def tail (c : Cursor Element) : Run (Cursor Element) :=
  match c.advance with
  | .ok d => pure d
  | .error e => Run.stop (.fault (.atEnd e))

/-- The head element, which must pass `ok`, and the step past it; its value is the element. -/
def satisfy (ok : Element → Bool) : Parser := fun c =>
  match c.head? with
  | some e =>
    if ok e then do
      let d ← tail c
      pure (some (e.toValue, d))
    else pure none
  | none => pure none

/-- Any one element. -/
def any : Parser := satisfy fun _ => true

/-- The given element. -/
def accept (e : Element) : Parser := satisfy fun x => x = e

/-- The end of the input: matches, with the unit value, only where no element is left. -/
def endOfInput : Parser := fun c =>
  pure (if c.isEmpty then some (.unit, c) else none)

/-- Back to the start of the source, with the unit value; always matches. -/
def rewind : Parser := fun c => pure (some (.unit, c.restart))

/-- The cursor after the characters of `cs`, one element each, if they come next: what reading
them gives (`expectChars_eq`). -/
def skipChars : List Char → Cursor Element → Option (Cursor Element)
  | [], c => some c
  | ch :: chs, c =>
    match c.next? with
    | some (e, d) => if e = .char ch then skipChars chs d else none
    | none => none

/-- The characters of `cs` read from `c`, one element each: where the head is the next
character, the step past it follows. The cursor past them all, or no match at the first
character that differs or where the input ends. -/
def expectChars : List Char → Cursor Element → Run (Option (Cursor Element))
  | [], c => pure (some c)
  | ch :: chs, c =>
    match c.head? with
    | some e =>
      if e = .char ch then do
        let d ← tail c
        expectChars chs d
      else pure none
    | none => pure none

/-- The characters of a string in order; its value is the string. -/
def literal (s : String) : Parser := fun c => do
  let o ← expectChars s.toList c
  pure (o.map fun d => (.str s, d))

/-! ## Steps past a head that is there -/

/-- A step past a head that is there never stops the run: it moves to the cursor past it. -/
theorem tail_of_next? {c d : Cursor Element} {e : Element} (h : c.next? = some (e, d)) :
    tail c = pure d := by
  rw [tail, Cursor.advance_eq, h]

/-- The guard of every step past the head: where `head?` gives an element, `advance`
succeeds, and the step moves to the cursor past that element. -/
theorem tail_of_head? {c : Cursor Element} {e : Element} (h : c.head? = some e) :
    ∃ d, c.next? = some (e, d) ∧ c.advance = .ok d ∧ tail c = pure d := by
  obtain ⟨d, hn⟩ := Cursor.next?_of_head? h
  exact ⟨d, hn, by rw [Cursor.advance_eq, hn], tail_of_next? hn⟩

/-- What a one-element test gives: the head's value and the cursor past it, where the head
passes `ok`. -/
def headMatch (ok : Element → Bool) (c : Cursor Element) : Outcome :=
  match c.next? with
  | some (e, d) => if ok e then some (e.toValue, d) else none
  | none => none

/-- A one-element test steps only past a head that passes it, so it never stops the run and
reports nothing: it gives what `headMatch` gives. -/
theorem satisfy_eq (ok : Element → Bool) (c : Cursor Element) :
    satisfy ok c = pure (headMatch ok c) := by
  unfold satisfy headMatch
  cases hh : c.head? with
  | none => rw [Cursor.next?_of_head?_none hh]
  | some e =>
    -- the step is taken only after the head was found
    obtain ⟨d, hn, -, ht⟩ := tail_of_head? hh
    simp only [hn]
    split
    · rw [ht, pure_bind]
    · rfl

/-- Reading characters steps only past a head that is the next character, so it never stops
the run and reports nothing: it skips the characters where they come next. -/
theorem expectChars_eq (cs : List Char) (c : Cursor Element) :
    expectChars cs c = pure (skipChars cs c) := by
  induction cs generalizing c with
  | nil => rfl
  | cons ch chs ih =>
    simp only [expectChars, skipChars]
    cases hh : c.head? with
    | none => rw [Cursor.next?_of_head?_none hh]
    | some e =>
      -- each step is taken only after its character was found at the head
      obtain ⟨d, hn, -, ht⟩ := tail_of_head? hh
      simp only [hn]
      split
      · rw [ht, pure_bind, ih]
      · rfl

/-- A literal never stops the run and reports nothing: it matches with its text where its
characters come next, past them. -/
theorem literal_eq (s : String) (c : Cursor Element) :
    literal s c = pure ((skipChars s.toList c).map fun d => (.str s, d)) := by
  show expectChars s.toList c >>= _ = _
  rw [expectChars_eq, pure_bind]

/-- Skipping characters reads exactly those characters, one element each. -/
theorem rest_of_skipChars {cs : List Char} {c d : Cursor Element}
    (h : skipChars cs c = some d) : c.rest = cs.map Element.char ++ d.rest := by
  induction cs generalizing c with
  | nil =>
    simp only [skipChars, Option.some.injEq] at h
    subst h
    rfl
  | cons ch chs ih =>
    simp only [skipChars] at h
    split at h
    · rename_i e d' hn
      split at h
      · rename_i he
        subst he
        rw [Cursor.rest_of_next? hn, ih h]
        rfl
      · cases h
    · cases h

/-- Characters that come next are skipped. -/
theorem skipChars_of_rest {cs : List Char} {c : Cursor Element} {rest : List Element}
    (h : c.rest = cs.map Element.char ++ rest) : ∃ d, skipChars cs c = some d ∧ d.rest = rest := by
  induction cs generalizing c with
  | nil => exact ⟨c, rfl, h⟩
  | cons ch chs ih =>
    obtain ⟨d, hn, hd⟩ := Cursor.next?_of_rest h
    obtain ⟨e, he, hr⟩ := ih hd
    refine ⟨e, ?_, hr⟩
    simp [skipChars, hn, he]

/-! ## Sequencing -/

/-- Run `p`, then `k` on its value and the cursor it leaves; no match if `p` does not match. -/
def andThen (p : Parser) (k : Value → Parser) : Parser := fun c => do
  match ← p c with
  | some (a, d) => k a d
  | none => pure none

/-- Match with a value, reading nothing. -/
def yield (v : Value) : Parser := fun c => pure (some (v, c))

/-- Two parsers in sequence; the value is the pair of theirs. -/
def seq (p q : Parser) : Parser :=
  p.andThen fun a => q.andThen fun b => yield (.pair a b)

/-- Two parsers in sequence; the value is the first one's. -/
def seqLeft (p q : Parser) : Parser :=
  p.andThen fun a => q.andThen fun _ => yield a

/-- Two parsers in sequence; the value is the second one's. -/
def seqRight (p q : Parser) : Parser :=
  p.andThen fun _ => q

/-- `p`, or else `q` from the same cursor; the value is tagged with the branch. -/
def alt (p q : Parser) : Parser := fun c => do
  match ← p c with
  | some (a, d) => pure (some (.left a, d))
  | none =>
    match ← q c with
    | some (b, d) => pure (some (.right b, d))
    | none => pure none

/-- `p` if it matches, with its value present; else the absent value, reading nothing. -/
def optional (p : Parser) : Parser := fun c => do
  match ← p c with
  | some (a, d) => pure (some (.present a, d))
  | none => pure (some (.absent, c))

/-- Matches, reading nothing, exactly where `p` does not match. -/
def not (p : Parser) : Parser := fun c => do
  match ← p c with
  | some _ => pure none
  | none => pure (some (.unit, c))

/-- `p` with its value transformed by `f`; a fault of `f` stops the run. -/
def map (p : Parser) (f : Value → Except Fault Value) : Parser := fun c => do
  match ← p c with
  | some (a, d) =>
    match f a with
    | .ok b => pure (some (b, d))
    | .error e => Run.stop (.fault e)
  | none => pure none

/-- `p` where its value passes `ok`. -/
def filter (p : Parser) (ok : Value → Bool) : Parser := fun c => do
  match ← p c with
  | some (a, d) => pure (if ok a then some (a, d) else none)
  | none => pure none

/-- `p` between an opening and a closing parser: the opening, then `p` from the cursor it left,
then the closing from the cursor `p` left; the value is `p`'s. -/
def between (l p r : Parser) : Parser := fun c => do
  match ← l c with
  | none => pure none
  | some (_, d) =>
    match ← p d with
    | none => pure none
    | some (v, e) =>
      match ← r e with
      | none => pure none
      | some (_, f) => pure (some (v, f))

/-- `p` reporting its attempt, then its match with the elements it consumed, or no match.
A cursor that ends up before its start counts as having consumed nothing. -/
def traced (p : Parser) (label : String) : Parser := fun c => do
  Run.emit (.attempt label c.position)
  match ← p c with
  | some (a, d) =>
    Run.emit (.matched label c.position (d.position - c.position))
    pure (some (a, d))
  | none =>
    Run.emit (.noMatch label c.position)
    pure none

/-- A part between two others is the part after the first, kept before the last. -/
theorem between_eq_seqRight (l p r : Parser) : between l p r = seqRight l (seqLeft p r) := by
  funext c
  show l c >>= _ = l c >>= _
  congr 1
  funext o
  rcases o with _ | ⟨a, d⟩
  · rfl
  · -- after the opening, both run the part from where it left, then the closing
    show p d >>= _ = p d >>= _
    congr 1
    funext o'
    rcases o' with _ | ⟨v, e⟩
    · rfl
    · show r e >>= _ = r e >>= _
      congr 1
      funext o''
      rcases o'' with _ | ⟨w, f⟩ <;> rfl

/-- Running `p`, `k` on its value and `k'` on that of `k` is the same whether `k'` is bound
after `k` or after both. -/
theorem andThen_assoc (p : Parser) (k k' : Value → Parser) :
    andThen (andThen p k) k' = andThen p fun a => andThen (k a) k' := by
  funext c
  show (p c >>= _) >>= _ = p c >>= _
  rw [bind_assoc]
  congr 1
  funext o
  rcases o with _ | ⟨a, d⟩ <;> rfl

/-- A part between two others is the part after the first, taken together, kept before the
last. -/
theorem between_eq_seqLeft (l p r : Parser) : between l p r = seqLeft (seqRight l p) r := by
  rw [between_eq_seqRight]
  exact (andThen_assoc l (fun _ => p) fun a => r.andThen fun _ => yield a).symm

end Parser

end Descent
