import Descent.Proofs.Keep

/-! # Cursors a session can reach

    A session over a source `s` starts at the first element, and from a cursor it holds it
    may step past the head, start the source again, or move to where a grammar's match ends.
    Every cursor it reaches is on `s` itself: each step keeps the source, and a match keeps
    it whatever the grammar and its rules (`Grammar.run_sameSource`), `rewind` included.

    On a cursor over `s`, the views agree with the position: what is left is `s` from the
    position on, and its length is what the position leaves of `s`; the cursor is empty,
    shows no head, has nothing left, and sits at `s.size` all at once; a step past the end
    reports the position, any other step moves on by one; and two such cursors are alike
    exactly when they are at the same position (`Cursor.Over`).
-/

namespace Descent

namespace Cursor

/-! ## The views of a cursor -/

/-- The elements left and the elements read add up to the source. -/
theorem remaining_add_position (c : Cursor Element) : c.remaining + c.position = c.source.size := by
  have := c.position_le
  simp only [remaining]
  omega

/-- A cursor shows no head exactly when it is empty. -/
theorem isEmpty_iff_head? (c : Cursor Element) : c.isEmpty = true ↔ c.head? = none := by
  rw [isEmpty_iff, head?, Array.getElem?_eq_none_iff]
  have := c.position_le
  omega

theorem remaining_eq_zero_iff (c : Cursor Element) :
    c.remaining = 0 ↔ c.position = c.source.size := by
  have := c.position_le
  simp only [remaining]
  omega

/-- A step fails exactly at the end, and it reports the position. -/
theorem advance_eq_error_iff (c : Cursor Element) :
    c.advance = .error ⟨c.position⟩ ↔ c.position = c.source.size := by
  rw [advance_eq, ← isEmpty_iff, ← next?_eq_none_iff]
  cases c.next? with
  | none => simp
  | some p => simp

/-- Before the end, a step moves one position on over the same source. -/
theorem advance_of_ne {c : Cursor Element} (h : c.position ≠ c.source.size) :
    ∃ d, c.advance = .ok d ∧ d.source = c.source ∧ d.position = c.position + 1 := by
  cases hn : c.next? with
  | none =>
    rw [next?_eq_none_iff, isEmpty_iff] at hn
    exact absurd hn h
  | some p =>
    obtain ⟨a, d⟩ := p
    obtain ⟨hs, hp⟩ := next?_eq_some hn
    refine ⟨d, ?_, hs, hp⟩
    rw [advance_eq, hn]

/-- A cursor is alike the start of `t` exactly when `t` is what is left of it. -/
theorem sameRest_start_iff (c : Cursor Element) (t : Array Element) :
    c.sameRest (start t) = true ↔ t.toList = c.rest := by
  simp only [sameRest, rest_start, decide_eq_true_eq]
  exact eq_comm

/-- Two cursors on one source are alike exactly when they are at the same position. -/
theorem sameRest_iff_position {c d : Cursor Element} (h : c.source = d.source) :
    c.sameRest d = true ↔ c.position = d.position := by
  simp only [sameRest, decide_eq_true_eq]
  constructor
  · intro hr
    have hl := congrArg List.length hr
    rw [length_rest, length_rest, remaining, remaining, h] at hl
    have := c.position_le
    have := d.position_le
    rw [h] at *
    omega
  · intro hp
    simp only [rest, h, hp]

/-! ## Cursors over a source -/

/-- What the views of a cursor say when it is on the source `s`. -/
structure Over (s : Array Element) (c : Cursor Element) : Prop where
  source_eq : c.source = s
  remaining_add_position : c.remaining + c.position = s.size
  rest_eq : c.rest = s.toList.drop c.position
  isEmpty_iff_head? : c.isEmpty = true ↔ c.head? = none
  head?_eq_none_iff : c.head? = none ↔ c.remaining = 0
  remaining_eq_zero_iff : c.remaining = 0 ↔ c.position = s.size
  advance_eq_error_iff : c.advance = .error ⟨c.position⟩ ↔ c.position = s.size
  advance_of_ne : c.position ≠ s.size →
    ∃ d, c.advance = .ok d ∧ d.source = s ∧ d.position = c.position + 1
  sameRest_start_iff : ∀ t, c.sameRest (start t) = true ↔ t.toList = s.toList.drop c.position

/-- Every cursor on `s` has the views of a cursor over `s`. -/
theorem over_of_source {s : Array Element} {c : Cursor Element} (h : c.source = s) : c.Over s := by
  subst h
  exact {
    source_eq := rfl
    remaining_add_position := c.remaining_add_position
    rest_eq := rfl
    isEmpty_iff_head? := c.isEmpty_iff_head?
    head?_eq_none_iff := by rw [← c.isEmpty_iff_head?, isEmpty_iff, remaining_eq_zero_iff]
    remaining_eq_zero_iff := c.remaining_eq_zero_iff
    advance_eq_error_iff := c.advance_eq_error_iff
    advance_of_ne := advance_of_ne
    sameRest_start_iff := c.sameRest_start_iff }

/-! ## Reachable cursors -/

/-- The cursors a session over `s` can hold: the start, and what a step, a new start on the
    cursor's source, or a grammar's match leaves. -/
inductive Reachable (s : Array Element) : Cursor Element → Prop where
  | start : Reachable s (start s)
  | advance {c d : Cursor Element} : Reachable s c → c.advance = .ok d → Reachable s d
  | restart {c : Cursor Element} : Reachable s c → Reachable s c.restart
  | parse {c d : Cursor Element} {v : Value} (rules : Rules) (g : Grammar) :
      Reachable s c → (g.run rules c).result = .ok (some (v, d)) → Reachable s d

/-- Every cursor a session reaches is on its source. -/
theorem Reachable.source_eq {s : Array Element} {c : Cursor Element} (hc : Reachable s c) :
    c.source = s := by
  induction hc with
  | start => rfl
  | advance _ hd ih =>
    rename_i c d
    rw [advance_eq] at hd
    split at hd
    · rename_i a d' hn
      cases hd
      rw [(next?_eq_some hn).1, ih]
    · cases hd
  | restart _ ih => exact ih
  | parse rules g _ hd ih =>
    rw [Grammar.run_sameSource rules g _ _ _ hd, ih]

/-- Every cursor a session reaches over `s` has the views of a cursor over `s`, and two of
    them are alike exactly when they are at the same position. -/
theorem reachable_over {s : Array Element} {c : Cursor Element} (hc : Reachable s c) :
    c.Over s ∧ ∀ d, Reachable s d → (c.sameRest d = true ↔ c.position = d.position) := by
  refine ⟨over_of_source hc.source_eq, fun d hd => ?_⟩
  exact sameRest_iff_position (hc.source_eq.trans hd.source_eq.symm)

/-- The cursor past the `a` of `ab`, left by a match of `any`. -/
theorem reachable_over_after_any :
    Reachable #[.char 'a', .char 'b'] ⟨#[.char 'a', .char 'b'], 1, by decide⟩ ∧
      (Over #[.char 'a', .char 'b'] ⟨#[.char 'a', .char 'b'], 1, by decide⟩ ∧
        ∀ d, Reachable #[.char 'a', .char 'b'] d →
          ((⟨#[.char 'a', .char 'b'], 1, by decide⟩ : Cursor Element).sameRest d = true ↔
            1 = d.position)) :=
  have h : Reachable #[.char 'a', .char 'b'] ⟨#[.char 'a', .char 'b'], 1, by decide⟩ :=
    .parse (v := .char 'a') [] .any .start rfl
  ⟨h, reachable_over h⟩

end Cursor

end Descent
