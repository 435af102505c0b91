import Descent.Proofs.Compose
import Descent.Proofs.Shift

/-! # Whole-input runs

    A whole-input run of a grammar runs it once from the start of a source and reads its
    match: a value where the match leaves nothing, no match, or where the match stopped and
    how much it left. A match leaves a cursor on the source it started from, so what it left
    is the source's size less its position: at least one element where it is not empty, and
    the two add up to the size, whatever the grammar does, `rewind` included. The three
    outcomes partition the runs that end; a run that stops makes the whole-input run stop
    alike, with the same events. A value is also exactly what the grammar followed by the end
    of input gives, and the other two outcomes are exactly where that sequence fails.
-/

namespace Descent

namespace Grammar

variable {rules : Rules}

/-- What a match from the start of `s` leaves is on `s`: it has as many elements left as `s`
    has past its position, and one at least where it is not empty. -/
theorem remaining_of_match {g : Grammar} {s : Array Element} {v : Value} {r : Cursor Element}
    (h : (g.run rules (Cursor.start s)).result = .ok (some (v, r))) :
    r.remaining = s.size - r.position ∧ (r.isEmpty = false → 1 ≤ s.size - r.position) := by
  have hs : r.source = s := run_sameSource rules g _ v r h
  have hle := r.position_le
  refine ⟨by rw [Cursor.remaining, hs], fun he => ?_⟩
  -- a cursor that is not empty stands before the end of its source
  have hne : r.position ≠ r.source.size := fun heq => by
    rw [← Cursor.isEmpty_iff, he] at heq
    cases heq
  rw [hs] at hle hne
  omega

/-- A whole-input run partitions the runs of a grammar from the start of `s`. It gives the
    value `v` exactly when the grammar matches with `v` and leaves nothing; no match exactly
    when the grammar does not match; and where the grammar matches and leaves a cursor `r`
    that is not empty, the position `P` of `r` and the count `N = |s| - P` of the elements
    left, with `N ≥ 1` and `P + N = |s|`. Where the grammar stops, it stops alike, with the
    same events. It gives a value exactly when the grammar followed by the end of input
    matches, with that value, and its other outcomes are exactly where that sequence fails. -/
theorem complete_partitions (rules : Rules) (g : Grammar) (s : Array Element) :
    (∀ v, (g.complete rules s).result = .ok (.value v) ↔
      ∃ r, (g.run rules (Cursor.start s)).result = .ok (some (v, r)) ∧ r.isEmpty = true) ∧
    ((g.complete rules s).result = .ok .noMatch ↔
      (g.run rules (Cursor.start s)).result = .ok none) ∧
    (∀ P N, (g.complete rules s).result = .ok (.incomplete P N) ↔
      ∃ v r, (g.run rules (Cursor.start s)).result = .ok (some (v, r)) ∧ r.isEmpty = false ∧
        P = r.position ∧ N = s.size - P ∧ 1 ≤ N ∧ P + N = s.size) ∧
    (∀ e, (g.complete rules s).result = .error e ↔
      (g.run rules (Cursor.start s)).result = .error e) ∧
    (g.complete rules s).events = (g.run rules (Cursor.start s)).events ∧
    (∀ v, (g.complete rules s).result = .ok (.value v) ↔
      ∃ r, ((Grammar.seqLeft g .endOfInput).run rules (Cursor.start s)).result =
        .ok (some (v, r))) ∧
    ((g.complete rules s).result = .ok .noMatch ∨
        (∃ P N, (g.complete rules s).result = .ok (.incomplete P N)) ↔
      ((Grammar.seqLeft g .endOfInput).run rules (Cursor.start s)).result = .ok none) := by
  rw [complete_eq, run_seqLeft, run_endOfInput]
  -- one case for each outcome of the run from the start
  cases hr : (g.run rules (Cursor.start s)).result with
  | error e' =>
    rw [Parser.seqLeft_of_stop hr]
    simp [Except.map]
  | ok o =>
    rcases o with _ | ⟨v, r⟩
    · rw [Parser.seqLeft_of_noMatch hr]
      simp [Except.map, Completion.ofMatch]
    · obtain ⟨hrem, hone⟩ := remaining_of_match hr
      rw [Parser.seqLeft_of_match hr]
      cases he : r.isEmpty
      · -- elements are left: the run stopped at `r`, before the end
        have h1 := hone he
        simp [Except.map, Completion.ofMatch, Parser.endOfInput, he, hrem]
        intro P N
        constructor
        · rintro ⟨rfl, rfl⟩
          omega
        · rintro ⟨rfl, rfl, -, -⟩
          exact ⟨rfl, rfl⟩
      · simp [Except.map, Completion.ofMatch, Parser.endOfInput, he]

end Grammar

end Descent
