import Descent.Proofs.Keep

/-! # Grammars without `rewind` only read forward

    `rewind` is the one parser that moves a cursor back. A grammar from which no `rewind`
    can be reached, in its own tree or in a rule it reaches through references
    (`Grammar.RewindFree`), therefore leaves every match at or after where it started, on
    the same source (`Grammar.runWith_forward`). What is left after the match is then what
    was left before it, less the elements it read: a suffix, at a distance that the two
    positions tell.
-/

namespace Descent

/-- A cursor that moved forward off its position has fewer elements left. -/
theorem Cursor.Forward.remaining_lt {c d : Cursor Element} (h : Cursor.Forward c d)
    (hne : d.position ≠ c.position) : d.remaining < c.remaining := by
  have := d.position_le
  have := c.position_le
  simp only [Cursor.remaining]
  rw [h.1] at *
  have := h.2
  omega

/-- A repetition's count of steps is more than the elements left of its cursor. -/
theorem Parser.remaining_lt_budget (c : Cursor Element) : c.remaining < Parser.budget c := by
  simp only [Cursor.remaining, Parser.budget]
  omega

namespace Grammar

/-- The rules that `g` reaches: those it refers to, and those that a reached rule refers to. -/
inductive Reaches (rules : Rules) : Grammar → String → Prop where
  | ref {g : Grammar} {name : String} : name ∈ g.refs → Reaches rules g name
  | rule {g h : Grammar} {name name' : String} :
      name ∈ g.refs → rules.lookup name = some h → Reaches rules h name' →
        Reaches rules g name'

/-- No `rewind` stands in `g`, nor in a rule that `g` reaches. -/
def RewindFree (rules : Rules) (g : Grammar) : Prop :=
  g.hasRewind = false ∧
    ∀ name h, g.Reaches rules name → rules.lookup name = some h → h.hasRewind = false

variable {rules : Rules}

/-- A rule that a grammar without `rewind` refers to is without `rewind` as well. -/
theorem RewindFree.rule {g h : Grammar} {name : String} (hg : RewindFree rules g)
    (hn : name ∈ g.refs) (hh : rules.lookup name = some h) : RewindFree rules h :=
  ⟨hg.2 name h (.ref hn) hh, fun name' h' hr hh' => hg.2 name' h' (.rule hn hh hr) hh'⟩

/-- A reference from a grammar without `rewind` is a grammar without `rewind`. -/
theorem RewindFree.ref {g : Grammar} {name : String} (hg : RewindFree rules g)
    (hn : name ∈ g.refs) : RewindFree rules (.ref name) := by
  refine ⟨rfl, fun name' h hr hh => ?_⟩
  -- what the reference reaches, `g` reaches through it
  cases hr with
  | ref hn' =>
    rw [refs, List.mem_singleton] at hn'
    subst hn'
    exact hg.2 name' h (.ref hn) hh
  | rule hn' hh' hr' =>
    rw [refs, List.mem_singleton] at hn'
    subst hn'
    exact hg.2 name' h (.rule hn hh' hr') hh

/-- Without `rewind`, a grammar reads forward when the rules it refers to do. -/
theorem eval_forward {E : String → Parser} {g : Grammar} (hrw : g.hasRewind = false)
    (hE : ∀ name ∈ g.refs, Parser.Keeps Cursor.Forward (E name)) :
    Parser.Keeps Cursor.Forward (g.eval E) := by
  refine eval_keeps Cursor.forward_stepOrder hE ?_
  intro h
  rw [hrw] at h
  cases h

/-- A run of a grammar without `rewind` leaves every match forward of where it started. -/
theorem runWith_forward (fuel : Nat) (active : List (String × Nat)) {g : Grammar}
    (hg : RewindFree rules g) : Parser.Keeps Cursor.Forward (runWith rules fuel active g) := by
  induction fuel generalizing active g with
  | zero =>
    refine eval_forward hg.1 fun name _ => expandRule_keeps ?_
    intro h _ active' c v d hd
    cases hd
  | succ n ih =>
    exact eval_forward hg.1
      fun name hn => expandRule_keeps fun h hh active' => ih active' (hg.rule hn hh)

theorem run_forward {g : Grammar} (hg : RewindFree rules g) :
    Parser.Keeps Cursor.Forward (g.run rules) :=
  fun c => runWith_forward _ [] hg c

/-- A match of a grammar without `rewind` reads forward: it leaves a cursor on the same source,
    at or after where it started, and what is left is what was left before, less the
    elements between the two positions. -/
theorem run_consumes {g : Grammar} (hg : RewindFree rules g) {c r : Cursor Element} {v : Value}
    (h : (g.run rules c).result = .ok (some (v, r))) :
    r.source = c.source ∧ c.position ≤ r.position ∧ r.position ≤ r.source.size ∧
      r.rest = c.rest.drop (r.position - c.position) := by
  obtain ⟨hs, hp⟩ := run_forward hg c v r h
  refine ⟨hs, hp, r.position_le, ?_⟩
  -- both views are drops of one list
  simp only [Cursor.rest, hs, List.drop_drop]
  congr 1
  omega

/-- Two `any` in sequence read the `ab` of `abc`, and leave `c`. -/
theorem run_consumes_any_any :
    RewindFree [] (.seq .any .any) ∧
      ((Grammar.seq .any .any).run [] (Cursor.start #[.char 'a', .char 'b', .char 'c'])).result =
        .ok (some (.pair (.char 'a') (.char 'b'),
          ⟨#[.char 'a', .char 'b', .char 'c'], 2, by decide⟩)) ∧
      (#[.char 'a', .char 'b', .char 'c'] : Array Element) = #[.char 'a', .char 'b', .char 'c'] ∧
        0 ≤ 2 ∧ 2 ≤ 3 ∧
          [Element.char 'c'] = [Element.char 'a', .char 'b', .char 'c'].drop (2 - 0) :=
  have hg : RewindFree [] (.seq .any .any) := ⟨rfl, fun _ _ _ hh => by cases hh⟩
  have hr :
      ((Grammar.seq .any .any).run [] (Cursor.start #[.char 'a', .char 'b', .char 'c'])).result =
        .ok (some (.pair (.char 'a') (.char 'b'),
          ⟨#[.char 'a', .char 'b', .char 'c'], 2, by decide⟩)) :=
    rfl
  ⟨hg, hr, run_consumes hg hr⟩

end Grammar

end Descent
