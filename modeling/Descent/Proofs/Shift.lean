import Descent.Proofs.Consume
import Descent.Proofs.Approx
import Descent.Grammar.Complete

/-! # Runs depend only on what is left

    Positions are counted from the start of a source, but a parser only looks at what is
    left. Two cursors with the same rest, at positions `δ` apart, lead a grammar without
    `rewind` through the same steps: the same outcomes, remainders with the same rest, again
    `δ` apart, and the same events with every position moved by `δ`. `Run.Shifted` states
    this of two runs, and `Parser.Shifted` of two parsers; every combinator keeps it. The
    repetitions keep it too: their bodies only read forward, so a loop stops as diverging
    at the same step on both sides, before either count of steps runs out.

    The expansions under way on the two sides are the same rules at positions `δ` apart, so
    a rule is started again on one side exactly when it is on the other
    (`Grammar.runWith_shifted`); with enough depth on both sides, which `run` gives, the
    two runs of a grammar keep step (`Grammar.run_depends_on_rest`). A whole-input run of
    what is left is then the run from the cursor, with positions read from the cursor.
-/

namespace Descent

/-! ## Shifted events, cursors and runs -/

/-- The event with its position moved by `δ`. -/
def Event.shift (δ : Int) : Event → Event
  | .attempt label p => .attempt label (p + δ).toNat
  | .matched label p n => .matched label (p + δ).toNat n
  | .noMatch label p => .noMatch label (p + δ).toNat

namespace Cursor

/-- `d` has the rest of `c`, at a position `δ` further on. -/
def Shifted (δ : Int) (c d : Cursor Element) : Prop :=
  c.rest = d.rest ∧ (d.position : Int) = c.position + δ

variable {δ : Int} {c d : Cursor Element}

theorem Shifted.remaining_eq (h : Shifted δ c d) : c.remaining = d.remaining := by
  rw [← length_rest, ← length_rest, h.1]

theorem Shifted.isEmpty_eq (h : Shifted δ c d) : c.isEmpty = d.isEmpty := by
  rw [Bool.eq_iff_iff, isEmpty_iff_rest, isEmpty_iff_rest, h.1]

/-- A step from two shifted cursors reads the same element and leaves shifted cursors. -/
theorem Shifted.next? (h : Shifted δ c d) :
    (c.next? = none ∧ d.next? = none) ∨
      ∃ a c' d', c.next? = some (a, c') ∧ d.next? = some (a, d') ∧ Shifted δ c' d' := by
  cases hc : c.rest with
  | nil =>
    left
    rw [next?_eq_none_iff, next?_eq_none_iff, isEmpty_iff_rest, isEmpty_iff_rest, ← h.1, hc]
    exact ⟨rfl, rfl⟩
  | cons a as =>
    right
    obtain ⟨c', hc', hrc⟩ := next?_of_rest hc
    obtain ⟨d', hd', hrd⟩ := next?_of_rest (h.1 ▸ hc)
    have hpc := (next?_eq_some hc').2
    have hpd := (next?_eq_some hd').2
    refine ⟨a, c', d', hc', hd', hrc.trans hrd.symm, ?_⟩
    have := h.2
    omega

end Cursor

/-- Two outcomes alike: no match on both sides, or the same value and shifted cursors. -/
def Outcome.Shifted (δ : Int) : Outcome → Outcome → Prop
  | none, none => True
  | some (v, c), some (w, d) => v = w ∧ Cursor.Shifted δ c d
  | _, _ => False

namespace Run

variable {β γ β' γ' : Type}

/-- Two results alike: related values, or the same stop. -/
def Agree (ρ : β → γ → Prop) : Except Stop β → Except Stop γ → Prop
  | .ok b, .ok b' => ρ b b'
  | .error s, .error s' => s = s'
  | _, _ => False

/-- Two runs alike up to positions: the events of the second are those of the first moved by
    `δ`, and the results agree. -/
def Shifted (δ : Int) (ρ : β → γ → Prop) (r : Run β) (r' : Run γ) : Prop :=
  r'.events = r.events.map (Event.shift δ) ∧ Agree ρ r.result r'.result

variable {δ : Int} {ρ : β → γ → Prop} {σ : β' → γ' → Prop}

theorem Shifted.pure {b : β} {b' : γ} (h : ρ b b') :
    Shifted δ ρ (Pure.pure b : Run β) (Pure.pure b' : Run γ) := ⟨rfl, h⟩

theorem Shifted.stop (s : Stop) : Shifted δ ρ (Run.stop s : Run β) (Run.stop s : Run γ) :=
  ⟨rfl, rfl⟩

theorem Shifted.emit {e e' : Event} (h : e' = e.shift δ) :
    Shifted δ (fun _ _ => True) (Run.emit e) (Run.emit e') := ⟨by rw [h]; rfl, trivial⟩

/-- Runs alike stay alike when followed by runs alike after every pair of related values. -/
theorem Shifted.bind {r : Run β} {r' : Run γ} {f : β → Run β'} {f' : γ → Run γ'}
    (h : Shifted δ ρ r r')
    (hf : ∀ b b', r.result = .ok b → r'.result = .ok b' → ρ b b' →
      Shifted δ σ (f b) (f' b')) :
    Shifted δ σ (r >>= f) (r' >>= f') := by
  obtain ⟨he, ha⟩ := h
  cases hr : r.result with
  | ok b =>
    cases hr' : r'.result with
    | ok b' =>
      rw [hr, hr'] at ha
      obtain ⟨he', ha'⟩ := hf b b' hr hr' ha
      rw [bind_of_ok hr, bind_of_ok hr']
      exact ⟨by simp [he, he', List.map_append], ha'⟩
    | error s =>
      -- a result on one side and a stop on the other do not agree
      rw [hr, hr'] at ha
      cases ha
  | error s =>
    cases hr' : r'.result with
    | ok b' =>
      rw [hr, hr'] at ha
      cases ha
    | error s' =>
      rw [hr, hr'] at ha
      rw [bind_of_error hr, bind_of_error hr', ha]
      exact ⟨he, rfl⟩

end Run

/-- Related outcomes: both no match, or the same value with shifted cursors. -/
theorem Outcome.Shifted.cases {δ : Int} {o o' : Outcome} (h : Outcome.Shifted δ o o') :
    (o = none ∧ o' = none) ∨
      ∃ v c d, o = some (v, c) ∧ o' = some (v, d) ∧ Cursor.Shifted δ c d := by
  rcases o with _ | ⟨v, c⟩ <;> rcases o' with _ | ⟨w, d⟩
  · exact .inl ⟨rfl, rfl⟩
  · cases h
  · cases h
  · obtain ⟨rfl, h⟩ := h
    exact .inr ⟨v, c, d, rfl, rfl, h⟩

namespace Parser

open Cursor (Forward)

/-- From cursors with the same rest, `δ` apart, `p` and `q` run alike. -/
def Shifted (δ : Int) (p q : Parser) : Prop :=
  ∀ c d, Cursor.Shifted δ c d → Run.Shifted δ (Outcome.Shifted δ) (p c) (q d)

variable {δ : Int}

theorem satisfy_shifted (ok : Element → Bool) : Shifted δ (satisfy ok) (satisfy ok) := by
  intro c d h
  rw [satisfy_eq, satisfy_eq]
  simp only [headMatch]
  apply Run.Shifted.pure
  rcases h.next? with ⟨hc, hd⟩ | ⟨a, c', d', hc, hd, h'⟩
  · rw [hc, hd]
    trivial
  · rw [hc, hd]
    dsimp only
    split
    · exact ⟨rfl, h'⟩
    · trivial

theorem skipChars_shifted (cs : List Char) {c d : Cursor Element} (h : Cursor.Shifted δ c d) :
    (skipChars cs c = none ∧ skipChars cs d = none) ∨
      ∃ c' d', skipChars cs c = some c' ∧ skipChars cs d = some d' ∧
        Cursor.Shifted δ c' d' := by
  induction cs generalizing c d with
  | nil => exact .inr ⟨c, d, rfl, rfl, h⟩
  | cons ch chs ih =>
    simp only [skipChars]
    rcases h.next? with ⟨hc, hd⟩ | ⟨a, c', d', hc, hd, h'⟩
    · rw [hc, hd]
      exact .inl ⟨rfl, rfl⟩
    · rw [hc, hd]
      dsimp only
      split
      · exact ih h'
      · exact .inl ⟨rfl, rfl⟩

theorem literal_shifted (s : String) : Shifted δ (literal s) (literal s) := by
  intro c d h
  rw [literal_eq, literal_eq]
  apply Run.Shifted.pure
  rcases skipChars_shifted s.toList h with ⟨hc, hd⟩ | ⟨c', d', hc, hd, h'⟩
  · rw [hc, hd]
    trivial
  · rw [hc, hd]
    exact ⟨rfl, h'⟩

theorem endOfInput_shifted : Shifted δ endOfInput endOfInput := by
  intro c d h
  simp only [endOfInput]
  apply Run.Shifted.pure
  rw [h.isEmpty_eq]
  split
  · exact ⟨rfl, h⟩
  · trivial

theorem andThen_shifted {p p' : Parser} {k k' : Value → Parser} (hp : Shifted δ p p')
    (hk : ∀ a, Shifted δ (k a) (k' a)) : Shifted δ (p.andThen k) (p'.andThen k') := by
  intro c d h
  refine (hp c d h).bind fun o o' _ _ ho => ?_
  rcases ho.cases with ⟨rfl, rfl⟩ | ⟨v, c', d', rfl, rfl, h'⟩
  · exact .pure trivial
  · exact hk v c' d' h'

theorem yield_shifted (v : Value) : Shifted δ (yield v) (yield v) :=
  fun _ _ h => .pure ⟨rfl, h⟩

theorem seq_shifted {p p' q q' : Parser} (hp : Shifted δ p p') (hq : Shifted δ q q') :
    Shifted δ (seq p q) (seq p' q') :=
  andThen_shifted hp fun _ => andThen_shifted hq fun _ => yield_shifted _

theorem seqLeft_shifted {p p' q q' : Parser} (hp : Shifted δ p p') (hq : Shifted δ q q') :
    Shifted δ (seqLeft p q) (seqLeft p' q') :=
  andThen_shifted hp fun _ => andThen_shifted hq fun _ => yield_shifted _

theorem seqRight_shifted {p p' q q' : Parser} (hp : Shifted δ p p') (hq : Shifted δ q q') :
    Shifted δ (seqRight p q) (seqRight p' q') :=
  andThen_shifted hp fun _ => hq

theorem between_shifted {l l' p p' r r' : Parser} (hl : Shifted δ l l') (hp : Shifted δ p p')
    (hr : Shifted δ r r') : Shifted δ (between l p r) (between l' p' r') := by
  rw [between_eq_seqRight, between_eq_seqRight]
  exact seqRight_shifted hl (seqLeft_shifted hp hr)

theorem alt_shifted {p p' q q' : Parser} (hp : Shifted δ p p') (hq : Shifted δ q q') :
    Shifted δ (alt p q) (alt p' q') := by
  intro c d h
  refine (hp c d h).bind fun o o' _ _ ho => ?_
  rcases ho.cases with ⟨rfl, rfl⟩ | ⟨v, c', d', rfl, rfl, h'⟩
  · -- the second branch starts from the same two cursors
    refine (hq c d h).bind fun o o' _ _ ho => ?_
    rcases ho.cases with ⟨rfl, rfl⟩ | ⟨w, c'', d'', rfl, rfl, h''⟩
    · exact .pure trivial
    · exact .pure ⟨rfl, h''⟩
  · exact .pure ⟨rfl, h'⟩

theorem optional_shifted {p p' : Parser} (hp : Shifted δ p p') :
    Shifted δ (optional p) (optional p') := by
  intro c d h
  refine (hp c d h).bind fun o o' _ _ ho => ?_
  rcases ho.cases with ⟨rfl, rfl⟩ | ⟨v, c', d', rfl, rfl, h'⟩
  · exact .pure ⟨rfl, h⟩
  · exact .pure ⟨rfl, h'⟩

theorem not_shifted {p p' : Parser} (hp : Shifted δ p p') : Shifted δ (not p) (not p') := by
  intro c d h
  refine (hp c d h).bind fun o o' _ _ ho => ?_
  rcases ho.cases with ⟨rfl, rfl⟩ | ⟨v, c', d', rfl, rfl, h'⟩
  · exact .pure ⟨rfl, h⟩
  · exact .pure trivial

theorem map_shifted {p p' : Parser} (f : Value → Except Fault Value) (hp : Shifted δ p p') :
    Shifted δ (map p f) (map p' f) := by
  intro c d h
  refine (hp c d h).bind fun o o' _ _ ho => ?_
  rcases ho.cases with ⟨rfl, rfl⟩ | ⟨v, c', d', rfl, rfl, h'⟩
  · exact .pure trivial
  · dsimp only
    split
    · exact .pure ⟨rfl, h'⟩
    · exact .stop _

theorem filter_shifted {p p' : Parser} (ok : Value → Bool) (hp : Shifted δ p p') :
    Shifted δ (filter p ok) (filter p' ok) := by
  intro c d h
  refine (hp c d h).bind fun o o' _ _ ho => ?_
  rcases ho.cases with ⟨rfl, rfl⟩ | ⟨v, c', d', rfl, rfl, h'⟩
  · exact .pure trivial
  · apply Run.Shifted.pure
    split
    · exact ⟨rfl, h'⟩
    · trivial

/-- The events of a labelled parser sit at the two cursors' positions, and what it consumed
    is a difference of positions, the same on both sides. -/
theorem traced_shifted {p p' : Parser} (label : String) (hp : Shifted δ p p') :
    Shifted δ (traced p label) (traced p' label) := by
  intro c d h
  have hpos := h.2
  refine (Run.Shifted.emit (by simp only [Event.shift]; congr; omega)).bind fun _ _ _ _ _ => ?_
  refine (hp c d h).bind fun o o' _ _ ho => ?_
  rcases ho.cases with ⟨rfl, rfl⟩ | ⟨v, c', d', rfl, rfl, h'⟩
  · refine (Run.Shifted.emit (by simp only [Event.shift]; congr; omega)).bind fun _ _ _ _ _ => ?_
    exact .pure trivial
  · have hpos' := h'.2
    refine (Run.Shifted.emit (by simp only [Event.shift]; congr 1 <;> omega)).bind
      fun _ _ _ _ _ => ?_
    exact .pure ⟨rfl, h'⟩

/-- The loops of two repetitions keep step, whatever their counts of steps, as long as these
    cover what is left: a body that only reads forward either moves on both sides, leaving
    fewer elements, or stays put on both sides and stops both loops as diverging. -/
theorem collect_shifted {p p' : Parser} (hp : Shifted δ p p') (hpf : Keeps Forward p)
    (hpf' : Keeps Forward p') :
    ∀ (f f' : Nat) (acc : Array Value) (c d : Cursor Element), Cursor.Shifted δ c d →
      c.remaining ≤ f → d.remaining ≤ f' →
      Run.Shifted δ
        (fun x y : Array Value × Cursor Element => x.1 = y.1 ∧ Cursor.Shifted δ x.2 y.2)
        (collect p f acc c) (collect p' f' acc d) := by
  intro f
  induction f with
  | zero =>
    intro f' acc c d h hf hf'
    rw [collect, collect]
    refine (hp c d h).bind fun o o' hpo _ ho => ?_
    rcases ho.cases with ⟨rfl, rfl⟩ | ⟨v, c', d', rfl, rfl, h'⟩
    · exact .pure ⟨rfl, h⟩
    · -- with nothing left, a match cannot have moved on
      have hstay : c'.position = c.position := by
        by_contra hne
        have := (hpf c v c' hpo).remaining_lt hne
        omega
      have hstay' : d'.position = d.position := by
        have := h.2
        have := h'.2
        omega
      dsimp only
      rw [if_pos hstay, if_pos hstay']
      exact .stop _
  | succ n ih =>
    intro f' acc c d h hf hf'
    rw [collect, collect]
    refine (hp c d h).bind fun o o' hpo hpo' ho => ?_
    rcases ho.cases with ⟨rfl, rfl⟩ | ⟨v, c', d', rfl, rfl, h'⟩
    · exact .pure ⟨rfl, h⟩
    · dsimp only
      have hpos := h.2
      have hpos' := h'.2
      by_cases hstay : c'.position = c.position
      · rw [if_pos hstay, if_pos (by omega)]
        exact .stop _
      · have hmove' : d'.position ≠ d.position := by omega
        rw [if_neg hstay, if_neg hmove']
        have hlt := (hpf c v c' hpo).remaining_lt hstay
        have hlt' := (hpf' d v d' hpo').remaining_lt hmove'
        obtain ⟨m, rfl⟩ : ∃ m, f' = m + 1 := ⟨f' - 1, by omega⟩
        exact ih m (acc.push v) c' d' h' (by omega) (by omega)

theorem many_shifted {p p' : Parser} (hp : Shifted δ p p') (hpf : Keeps Forward p)
    (hpf' : Keeps Forward p') : Shifted δ (many p) (many p') := by
  intro c d h
  refine (collect_shifted hp hpf hpf' _ _ #[] c d h (remaining_lt_budget c).le
    (remaining_lt_budget d).le).bind fun x y _ _ hxy => ?_
  obtain ⟨vs, c'⟩ := x
  obtain ⟨ws, d'⟩ := y
  obtain ⟨hv, h'⟩ := hxy
  dsimp only at hv
  subst hv
  exact .pure ⟨rfl, h'⟩

theorem many1_shifted {p p' : Parser} (hp : Shifted δ p p') (hpf : Keeps Forward p)
    (hpf' : Keeps Forward p') : Shifted δ (many1 p) (many1 p') := by
  intro c d h
  refine (hp c d h).bind fun o o' _ _ ho => ?_
  rcases ho.cases with ⟨rfl, rfl⟩ | ⟨v, c', d', rfl, rfl, h'⟩
  · exact .pure trivial
  · refine (collect_shifted hp hpf hpf' _ _ #[v] c' d' h' (remaining_lt_budget c').le
      (remaining_lt_budget d').le).bind fun x y _ _ hxy => ?_
    obtain ⟨vs, c''⟩ := x
    obtain ⟨ws, d''⟩ := y
    obtain ⟨hv, h''⟩ := hxy
    dsimp only at hv
    subst hv
    exact .pure ⟨rfl, h''⟩

/-- The loops of two separated lists keep step, as the loops of two repetitions do; the step
    is a separator and an item, and a list ends before a separator that leads to no item. -/
theorem collectSeparated_shifted {item item' sep sep' : Parser} (hi : Shifted δ item item')
    (hs : Shifted δ sep sep') (hif : Keeps Forward item) (hif' : Keeps Forward item')
    (hsf : Keeps Forward sep) (hsf' : Keeps Forward sep') :
    ∀ (f f' : Nat) (acc : Array Value) (c d : Cursor Element), Cursor.Shifted δ c d →
      c.remaining ≤ f → d.remaining ≤ f' →
      Run.Shifted δ
        (fun x y : Array Value × Cursor Element => x.1 = y.1 ∧ Cursor.Shifted δ x.2 y.2)
        (collectSeparated item sep f acc c) (collectSeparated item' sep' f' acc d) := by
  intro f
  induction f with
  | zero =>
    intro f' acc c d h hf hf'
    rw [collectSeparated, collectSeparated]
    refine (hs c d h).bind fun o o' hso _ ho => ?_
    rcases ho.cases with ⟨rfl, rfl⟩ | ⟨a, c₁, d₁, rfl, rfl, h₁⟩
    · exact .pure ⟨rfl, h⟩
    · refine (hi c₁ d₁ h₁).bind fun o o' hio _ ho => ?_
      rcases ho.cases with ⟨rfl, rfl⟩ | ⟨b, c₂, d₂, rfl, rfl, h₂⟩
      · exact .pure ⟨rfl, h⟩
      · have hstay : c₂.position = c.position := by
          by_contra hne
          have hcc := Cursor.forward_stepOrder.trans (hsf c a c₁ hso) (hif c₁ b c₂ hio)
          have := hcc.remaining_lt hne
          omega
        have hstay' : d₂.position = d.position := by
          have := h.2
          have := h₂.2
          omega
        dsimp only
        rw [if_pos hstay, if_pos hstay']
        exact .stop _
  | succ n ih =>
    intro f' acc c d h hf hf'
    rw [collectSeparated, collectSeparated]
    refine (hs c d h).bind fun o o' hso hso' ho => ?_
    rcases ho.cases with ⟨rfl, rfl⟩ | ⟨a, c₁, d₁, rfl, rfl, h₁⟩
    · exact .pure ⟨rfl, h⟩
    · refine (hi c₁ d₁ h₁).bind fun o o' hio hio' ho => ?_
      rcases ho.cases with ⟨rfl, rfl⟩ | ⟨b, c₂, d₂, rfl, rfl, h₂⟩
      · exact .pure ⟨rfl, h⟩
      · dsimp only
        have hpos := h.2
        have hpos' := h₂.2
        by_cases hstay : c₂.position = c.position
        · rw [if_pos hstay, if_pos (by omega)]
          exact .stop _
        · have hmove' : d₂.position ≠ d.position := by omega
          rw [if_neg hstay, if_neg hmove']
          have hlt := (Cursor.forward_stepOrder.trans (hsf c a c₁ hso)
            (hif c₁ b c₂ hio)).remaining_lt hstay
          have hlt' := (Cursor.forward_stepOrder.trans (hsf' d a d₁ hso')
            (hif' d₁ b d₂ hio')).remaining_lt hmove'
          obtain ⟨m, rfl⟩ : ∃ m, f' = m + 1 := ⟨f' - 1, by omega⟩
          exact ih m (acc.push b) c₂ d₂ h₂ (by omega) (by omega)

theorem sepBy_shifted {item item' sep sep' : Parser} (hi : Shifted δ item item')
    (hs : Shifted δ sep sep') (hif : Keeps Forward item) (hif' : Keeps Forward item')
    (hsf : Keeps Forward sep) (hsf' : Keeps Forward sep') :
    Shifted δ (sepBy item sep) (sepBy item' sep') := by
  intro c d h
  refine (hi c d h).bind fun o o' _ _ ho => ?_
  rcases ho.cases with ⟨rfl, rfl⟩ | ⟨v, c', d', rfl, rfl, h'⟩
  · exact .pure trivial
  · refine (collectSeparated_shifted hi hs hif hif' hsf hsf' _ _ #[v] c' d' h'
      (remaining_lt_budget c').le (remaining_lt_budget d').le).bind fun x y _ _ hxy => ?_
    obtain ⟨vs, c''⟩ := x
    obtain ⟨ws, d''⟩ := y
    obtain ⟨hv, h''⟩ := hxy
    dsimp only at hv
    subst hv
    exact .pure ⟨rfl, h''⟩

end Parser

namespace Run

variable {β γ β' : Type} {ρ : β → γ → Prop}

/-- Results that agree give the same result under maps that agree on related values. -/
theorem Agree.map {f : β → β'} {f' : γ → β'} {r : Except Stop β} {r' : Except Stop γ}
    (h : Agree ρ r r') (hf : ∀ b b', ρ b b' → f b = f' b') : r.map f = r'.map f' := by
  cases r with
  | ok b =>
    cases r' with
    | ok b' => exact congrArg Except.ok (hf b b' h)
    | error _ => exact (h : False).elim
  | error s =>
    cases r' with
    | ok _ => exact (h : False).elim
    | error s' => exact congrArg Except.error h

end Run

/-- Two results of matches that agree: no match on both sides, the same stop on both, or the
    same value with shifted cursors. -/
theorem Outcome.agree_cases {δ : Int} {r r' : Except Stop Outcome}
    (h : Run.Agree (Outcome.Shifted δ) r r') :
    r = .ok none ∧ r' = .ok none ∨ (∃ s, r = .error s ∧ r' = .error s) ∨
      ∃ v c d, r = .ok (some (v, c)) ∧ r' = .ok (some (v, d)) ∧ Cursor.Shifted δ c d := by
  cases r with
  | ok o =>
    cases r' with
    | ok o' =>
      rcases Outcome.Shifted.cases h with ⟨rfl, rfl⟩ | ⟨v, c, d, rfl, rfl, hc⟩
      · exact .inl ⟨rfl, rfl⟩
      · exact .inr (.inr ⟨v, c, d, rfl, rfl, hc⟩)
    | error _ => exact (h : False).elim
  | error s =>
    cases r' with
    | ok _ => exact (h : False).elim
    | error s' =>
      have hs : s = s' := h
      exact .inr (.inl ⟨s, rfl, by rw [hs]⟩)

/-- The whole-input outcome of a match made from a cursor at `base`: a value when nothing is
    left, and otherwise where the match stopped, counted from `base`, and what it left. -/
def Completion.ofMatch (base : Nat) : Outcome → Completion
  | none => .noMatch
  | some (v, d) => if d.isEmpty then .value v else .incomplete (d.position - base) d.remaining

/-- Matches alike from a cursor at `base` and from a start give the same whole-input outcome,
    when positions are read from `base` on the one side. -/
theorem Outcome.Shifted.ofMatch {base : Nat} {o o' : Outcome}
    (h : Outcome.Shifted (-(base : Int)) o o') :
    Completion.ofMatch base o = Completion.ofMatch 0 o' := by
  rcases h.cases with ⟨rfl, rfl⟩ | ⟨v, r, r', rfl, rfl, hr⟩
  · rfl
  · have hpos : r.position - base = r'.position - 0 := by
      have := hr.2
      omega
    simp only [Completion.ofMatch, hr.isEmpty_eq, hr.remaining_eq, hpos]

namespace Grammar

variable {rules : Rules} {δ : Int}

/-- A run of a whole source is a run from its start, its match read as a whole-input outcome. -/
theorem complete_eq (g : Grammar) (s : Array Element) :
    g.complete rules s = ⟨(g.run rules (Cursor.start s)).events,
      (g.run rules (Cursor.start s)).result.map (Completion.ofMatch 0)⟩ := by
  unfold complete
  cases hr : (g.run rules (Cursor.start s)).result with
  | error e =>
    rw [Run.bind_of_error hr]
    rfl
  | ok o =>
    rw [Run.bind_of_ok hr]
    rcases o with _ | ⟨v, d⟩
    · simp [Completion.ofMatch, Except.map]
    · simp [Completion.ofMatch, Except.map]

/-- Rules that keep step on both sides and read forward on each make a grammar without
    `rewind` read forward on each side. -/
theorem eval_forward_of_shifted {E E' : String → Parser} {g : Grammar}
    (hrw : g.hasRewind = false)
    (hE : ∀ name ∈ g.refs, Parser.Shifted δ (E name) (E' name) ∧
      Parser.Keeps Cursor.Forward (E name) ∧ Parser.Keeps Cursor.Forward (E' name)) :
    Parser.Keeps Cursor.Forward (g.eval E) ∧ Parser.Keeps Cursor.Forward (g.eval E') :=
  ⟨eval_forward hrw fun n hn => (hE n hn).2.1, eval_forward hrw fun n hn => (hE n hn).2.2⟩

/-- Two readings of a grammar without `rewind` keep step when the rules it refers to keep step
    and read forward on both sides. -/
theorem eval_shifted {E E' : String → Parser} {g : Grammar} (hrw : g.hasRewind = false)
    (hE : ∀ name ∈ g.refs, Parser.Shifted δ (E name) (E' name) ∧
      Parser.Keeps Cursor.Forward (E name) ∧ Parser.Keeps Cursor.Forward (E' name)) :
    Parser.Shifted δ (g.eval E) (g.eval E') := by
  induction g with
  | any | accept _ | satisfy _ => exact Parser.satisfy_shifted _
  | endOfInput => exact Parser.endOfInput_shifted
  | rewind => cases hrw
  | literal s => exact Parser.literal_shifted s
  | ref name => exact (hE name (by simp [refs])).1
  | seq p q ihp ihq =>
    simp only [refs, List.mem_append, hasRewind, Bool.or_eq_false_iff] at hE hrw
    exact Parser.seq_shifted (ihp hrw.1 fun n hn => hE n (.inl hn))
      (ihq hrw.2 fun n hn => hE n (.inr hn))
  | seqLeft p q ihp ihq =>
    simp only [refs, List.mem_append, hasRewind, Bool.or_eq_false_iff] at hE hrw
    exact Parser.seqLeft_shifted (ihp hrw.1 fun n hn => hE n (.inl hn))
      (ihq hrw.2 fun n hn => hE n (.inr hn))
  | seqRight p q ihp ihq =>
    simp only [refs, List.mem_append, hasRewind, Bool.or_eq_false_iff] at hE hrw
    exact Parser.seqRight_shifted (ihp hrw.1 fun n hn => hE n (.inl hn))
      (ihq hrw.2 fun n hn => hE n (.inr hn))
  | alt p q ihp ihq =>
    simp only [refs, List.mem_append, hasRewind, Bool.or_eq_false_iff] at hE hrw
    exact Parser.alt_shifted (ihp hrw.1 fun n hn => hE n (.inl hn))
      (ihq hrw.2 fun n hn => hE n (.inr hn))
  | sepBy item sep ihi ihs =>
    simp only [refs, List.mem_append, hasRewind, Bool.or_eq_false_iff] at hE hrw
    have hi : ∀ n ∈ item.refs, _ := fun n hn => hE n (.inl hn)
    have hs : ∀ n ∈ sep.refs, _ := fun n hn => hE n (.inr hn)
    -- a separated list steps only when its item and separator read forward
    obtain ⟨hif, hif'⟩ := eval_forward_of_shifted hrw.1 hi
    obtain ⟨hsf, hsf'⟩ := eval_forward_of_shifted hrw.2 hs
    exact Parser.sepBy_shifted (ihi hrw.1 hi) (ihs hrw.2 hs) hif hif' hsf hsf'
  | between l p r ihl ihp ihr =>
    simp only [refs, List.mem_append, hasRewind, Bool.or_eq_false_iff] at hE hrw
    exact Parser.between_shifted (ihl hrw.1.1 fun n hn => hE n (.inl (.inl hn)))
      (ihp hrw.1.2 fun n hn => hE n (.inl (.inr hn))) (ihr hrw.2 fun n hn => hE n (.inr hn))
  | many p ih =>
    obtain ⟨hf, hf'⟩ := eval_forward_of_shifted (g := p) hrw hE
    exact Parser.many_shifted (ih hrw hE) hf hf'
  | many1 p ih =>
    obtain ⟨hf, hf'⟩ := eval_forward_of_shifted (g := p) hrw hE
    exact Parser.many1_shifted (ih hrw hE) hf hf'
  | optional p ih => exact Parser.optional_shifted (ih hrw hE)
  | not p ih => exact Parser.not_shifted (ih hrw hE)
  | map p f ih => exact Parser.map_shifted _ (ih hrw hE)
  | filter p q ih => exact Parser.filter_shifted _ (ih hrw hE)
  | traced p label ih => exact Parser.traced_shifted label (ih hrw hE)
  | lazy p ih | boxed p ih => exact ih hrw hE

/-- Two lists of expansions under way: the same rules, at positions `δ` apart. -/
def ActiveShifted (δ : Int) (A A' : List (String × Nat)) : Prop :=
  List.Forall₂ (fun x y => x.1 = y.1 ∧ (y.2 : Int) = x.2 + δ) A A'

/-- A rule is under way at a position on one side exactly when it is under way `δ` further on
    on the other. -/
theorem ActiveShifted.mem_iff {A A' : List (String × Nat)} (hA : ActiveShifted δ A A')
    {name : String} {q q' : Nat} (hq : (q' : Int) = q + δ) :
    (name, q) ∈ A ↔ (name, q') ∈ A' := by
  unfold ActiveShifted at hA
  induction hA with
  | nil => simp
  | @cons x y B B' hxy _ ih =>
    have hpos : q = x.2 ↔ q' = y.2 := by
      have := hxy.2
      constructor <;> intro h <;> omega
    simp only [List.mem_cons, Prod.ext_iff, hxy.1, hpos, ih]

/-- A reference keeps step when the rule's grammar does, parsed on both sides with lists under
    way that are `δ` apart; a rule under way on one side is under way on the other, and both
    sides stop. -/
theorem expandRule_shifted {A A' : List (String × Nat)}
    {next next' : List (String × Nat) → Grammar → Parser} {name : String}
    (hA : ActiveShifted δ A A')
    (hnext : ∀ h, rules.lookup name = some h → ∀ B B', ActiveShifted δ B B' →
      Parser.Shifted δ (next B h) (next' B' h)) :
    Parser.Shifted δ (expandRule rules A next name) (expandRule rules A' next' name) := by
  intro c d hcd
  simp only [expandRule]
  cases hh : rules.lookup name with
  | none => exact .pure trivial
  | some h =>
    dsimp only
    by_cases hc : (name, c.position) ∈ A
    · rw [if_pos hc, if_pos ((hA.mem_iff hcd.2).1 hc)]
      exact .stop _
    · rw [if_neg hc, if_neg (mt (hA.mem_iff hcd.2).2 hc)]
      exact hnext h hh ((name, c.position) :: A) ((name, d.position) :: A')
        (.cons ⟨rfl, hcd.2⟩ hA) c d hcd

/-- Two runs of a grammar without `rewind` at one depth keep step, while the expansions under
    way on the two sides are the same rules `δ` apart. -/
theorem runWith_shifted : ∀ (k : Nat) {A A' : List (String × Nat)} {g : Grammar},
    RewindFree rules g → ActiveShifted δ A A' →
      Parser.Shifted δ (runWith rules k A g) (runWith rules k A' g) := by
  intro k
  induction k with
  | zero =>
    intro A A' g hg hA
    exact eval_shifted hg.1 fun name hn =>
      ⟨expandRule_shifted hA fun _ _ _ _ _ _ _ _ => .stop _, runWith_forward 0 A (hg.ref hn),
        runWith_forward 0 A' (hg.ref hn)⟩
  | succ n ih =>
    intro A A' g hg hA
    exact eval_shifted hg.1 fun name hn =>
      ⟨expandRule_shifted hA fun h hh B B' hB => ih (hg.rule hn hh) hB,
        runWith_forward (n + 1) A (hg.ref hn), runWith_forward (n + 1) A' (hg.ref hn)⟩

/-- Two runs of a grammar without `rewind` from cursors with the same rest keep step. -/
theorem run_shifted {g : Grammar} (hg : RewindFree rules g) {c d : Cursor Element}
    (h : Cursor.Shifted δ c d) :
    Run.Shifted δ (Outcome.Shifted δ) (g.run rules c) (g.run rules d) := by
  -- both runs are runs at one depth, deep enough for either cursor
  rw [run_eq_runWith g (Nat.le_max_left (depth rules c) (depth rules d)),
    run_eq_runWith g (Nat.le_max_right (depth rules c) (depth rules d))]
  exact runWith_shifted _ hg List.Forall₂.nil c d h

/-- A run of a grammar without `rewind` depends only on what is left of its cursor. From two
    cursors with the same rest, the events are the same up to the distance between the
    cursors, and the results agree: no match on both sides, the same stop on both, or the
    same value, with the same rest left after reading as many elements. A whole-input run
    of what is left of a cursor is therefore the run from the cursor, with its positions
    read from the cursor. -/
theorem run_depends_on_rest {g : Grammar} (hg : RewindFree rules g) :
    (∀ c₁ c₂ : Cursor Element, c₁.rest = c₂.rest →
      (g.run rules c₂).events =
          (g.run rules c₁).events.map (Event.shift ((c₂.position : Int) - c₁.position)) ∧
        ((g.run rules c₁).result = .ok none ∧ (g.run rules c₂).result = .ok none ∨
          (∃ s, (g.run rules c₁).result = .error s ∧ (g.run rules c₂).result = .error s) ∨
          ∃ v r₁ r₂, (g.run rules c₁).result = .ok (some (v, r₁)) ∧
            (g.run rules c₂).result = .ok (some (v, r₂)) ∧ r₁.rest = r₂.rest ∧
            r₁.position - c₁.position = r₂.position - c₂.position)) ∧
    ∀ c : Cursor Element, g.complete rules c.rest.toArray =
      ⟨(g.run rules c).events.map (Event.shift (-c.position)),
        (g.run rules c).result.map (Completion.ofMatch c.position)⟩ := by
  refine ⟨fun c₁ c₂ hrest => ?_, fun c => ?_⟩
  · have h : Cursor.Shifted ((c₂.position : Int) - c₁.position) c₁ c₂ :=
      ⟨hrest, by omega⟩
    obtain ⟨hev, hres⟩ := run_shifted hg h
    refine ⟨hev, ?_⟩
    rcases Outcome.agree_cases hres with hn | hs | ⟨v, r₁, r₂, hr₁, hr₂, hr⟩
    · exact .inl hn
    · exact .inr (.inl hs)
    · -- both matches read forward, by as many elements
      have hf₁ := (run_forward hg c₁ v r₁ hr₁).2
      have hf₂ := (run_forward hg c₂ v r₂ hr₂).2
      have hpos := hr.2
      exact .inr (.inr ⟨v, r₁, r₂, hr₁, hr₂, hr.1, by omega⟩)
  · -- the start of what is left sits the cursor's position before it
    have h : Cursor.Shifted (-(c.position : Int)) c (Cursor.start c.rest.toArray) :=
      ⟨by simp [Cursor.rest_start], by simp [Cursor.start]⟩
    obtain ⟨hev, hres⟩ := run_shifted hg h
    rw [complete_eq, hev, hres.map fun o o' ho => ho.ofMatch]

/-- `any` from the second element of `ab` and from the start of `b`, two cursors over
    different sources with the same rest, keeps step: its events are one position apart, and
    its results agree. `any` on what is left of `ab` after its first element is `any` from
    that element. -/
theorem run_depends_on_rest_any :
    RewindFree [] Grammar.any ∧
      Cursor.rest ⟨#[Element.char 'a', .char 'b'], 1, by decide⟩ =
        (Cursor.start #[Element.char 'b']).rest ∧
      ((Grammar.any.run [] (Cursor.start #[Element.char 'b'])).events =
          (Grammar.any.run [] ⟨#[Element.char 'a', .char 'b'], 1, by decide⟩).events.map
            (Event.shift (-1)) ∧
        ((Grammar.any.run [] ⟨#[Element.char 'a', .char 'b'], 1, by decide⟩).result = .ok none ∧
            (Grammar.any.run [] (Cursor.start #[Element.char 'b'])).result = .ok none ∨
          (∃ s, (Grammar.any.run [] ⟨#[Element.char 'a', .char 'b'], 1, by decide⟩).result =
              .error s ∧ (Grammar.any.run [] (Cursor.start #[Element.char 'b'])).result =
              .error s) ∨
          ∃ v r₁ r₂,
            (Grammar.any.run [] ⟨#[Element.char 'a', .char 'b'], 1, by decide⟩).result =
              .ok (some (v, r₁)) ∧
            (Grammar.any.run [] (Cursor.start #[Element.char 'b'])).result =
              .ok (some (v, r₂)) ∧
            r₁.rest = r₂.rest ∧ r₁.position - 1 = r₂.position - 0)) ∧
      Grammar.any.complete []
          (Cursor.rest ⟨#[Element.char 'a', .char 'b'], 1, by decide⟩).toArray =
        ⟨(Grammar.any.run [] ⟨#[Element.char 'a', .char 'b'], 1, by decide⟩).events.map
            (Event.shift (-((1 : Nat) : Int))),
          (Grammar.any.run [] ⟨#[Element.char 'a', .char 'b'], 1, by decide⟩).result.map
            (Completion.ofMatch 1)⟩ :=
  have hg : RewindFree [] Grammar.any := ⟨rfl, fun _ _ _ hh => by cases hh⟩
  have hrest : Cursor.rest ⟨#[Element.char 'a', .char 'b'], 1, by decide⟩ =
      (Cursor.start #[Element.char 'b']).rest := rfl
  ⟨hg, hrest, (run_depends_on_rest hg).1 _ _ hrest, (run_depends_on_rest hg).2 _⟩

end Grammar

end Descent
