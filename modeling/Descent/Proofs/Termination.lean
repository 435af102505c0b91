import Descent.Proofs.Consume
import Descent.Proofs.Approx

/-! # Well-formed grammars end

    A run stops as diverging in three ways: a repetition whose step matches without moving
    on, a rule expanded again at a position where it is already under way, and expansions
    nested deeper than the run's depth. None of them happens on a grammar without `rewind`
    that is well formed (`Grammar.WellFormed`):

    * the body of every `many` and `many1`, and every separator of a `sepBy` with the item
      after it, moves on whenever it matches (`Grammar.LoopsAdvance`). A repetition then
      leaves fewer elements at every step, and its count of steps, one more than there are
      elements, is never used up;
    * no rule calls itself, through others, at the position where it started
      (`Grammar.LeftCalls` has no cycle). A rule calls another there when the reference
      stands at the start of its grammar (`Grammar.CallsAtStart`): first in a sequence, or
      after parts that can match reading nothing, in either branch of a choice, and under
      every other combinator. The expansions under way at one position then form a chain
      of such calls (`Grammar.Ready`), so a rule is never expanded twice at a position;
    * the expansions under way are distinct pairs of a rule and a position from the start
      on, so there are at most `rules.length * (c.remaining + 1)` of them, and a run at
      that depth never reaches it.

    `Grammar.run_ends` states the result: at every such depth, and in `run`, no run of a
    well-formed grammar diverges. A fault of a `map` may still stop it.
-/

namespace Descent

namespace Run

variable {β γ : Type}

/-- A run that does not stop as diverging: it gives a result, or stops with a fault. -/
def Ends (r : Run β) : Prop := r.result ≠ .error .diverges

theorem ends_pure (b : β) : (pure b : Run β).Ends := by
  simp [Ends]

theorem ends_emit (e : Event) : (Run.emit e).Ends := by
  simp [Ends, emit]

theorem ends_fault (f : Fault) : (Run.stop (.fault f) : Run β).Ends := by
  simp [Ends]

/-- A run ends when its first part ends, and so does the second after every result. -/
theorem Ends.bind {r : Run β} {f : β → Run γ} (h : r.Ends)
    (hf : ∀ b, r.result = .ok b → (f b).Ends) : (r >>= f).Ends := by
  cases hr : r.result with
  | ok b =>
    rw [bind_of_ok hr]
    exact hf b hr
  | error s =>
    rw [bind_of_error hr]
    intro hs
    cases hs
    exact h hr

end Run

namespace Parser

variable {c : Cursor Element}

theorem satisfy_ends (ok : Element → Bool) (c : Cursor Element) : (satisfy ok c).Ends := by
  rw [satisfy_eq]
  exact Run.ends_pure _

/-- A match of a one-element test reads exactly one element. -/
theorem satisfy_position {ok : Element → Bool} {v : Value} {d : Cursor Element}
    (h : (satisfy ok c).result = .ok (some (v, d))) : d.position = c.position + 1 := by
  rw [satisfy_eq] at h
  simp only [headMatch, Run.pure_result, Except.ok.injEq] at h
  cases hn : c.next? with
  | none =>
    rw [hn] at h
    cases h
  | some p =>
    obtain ⟨e, d'⟩ := p
    rw [hn] at h
    dsimp only at h
    split at h
    · cases h
      exact (Cursor.next?_eq_some hn).2
    · cases h

theorem literal_ends (s : String) (c : Cursor Element) : (literal s c).Ends := by
  rw [literal_eq]
  exact Run.ends_pure _

theorem endOfInput_ends (c : Cursor Element) : (endOfInput c).Ends :=
  Run.ends_pure _

/-- A sequence ends when its first part does, and its continuation after every match. -/
theorem andThen_ends {p : Parser} {k : Value → Parser} (hp : (p c).Ends)
    (hk : ∀ a d, (p c).result = .ok (some (a, d)) → (k a d).Ends) : (p.andThen k c).Ends := by
  refine hp.bind fun o ho => ?_
  rcases o with _ | ⟨a, d⟩
  · exact Run.ends_pure _
  · exact hk a d ho

theorem seq_ends {p q : Parser} (hp : (p c).Ends)
    (hq : ∀ a d, (p c).result = .ok (some (a, d)) → (q d).Ends) : (seq p q c).Ends :=
  andThen_ends hp fun a d hd => andThen_ends (hq a d hd) fun _ _ _ => Run.ends_pure _

theorem seqLeft_ends {p q : Parser} (hp : (p c).Ends)
    (hq : ∀ a d, (p c).result = .ok (some (a, d)) → (q d).Ends) : (seqLeft p q c).Ends :=
  andThen_ends hp fun a d hd => andThen_ends (hq a d hd) fun _ _ _ => Run.ends_pure _

theorem seqRight_ends {p q : Parser} (hp : (p c).Ends)
    (hq : ∀ a d, (p c).result = .ok (some (a, d)) → (q d).Ends) : (seqRight p q c).Ends :=
  andThen_ends hp hq

/-- After a match of its first part, a sequence gives what its second part gives. -/
theorem seqRight_result {p q : Parser} {d : Cursor Element} {a : Value}
    (h : (p c).result = .ok (some (a, d))) : (seqRight p q c).result = (q d).result := by
  show (p c >>= _).result = _
  rw [Run.bind_result_of_ok h]

/-- A match of a sequence is a match of its first part, then one of its second. -/
theorem seqRight_ok {p q : Parser} {e : Cursor Element} {b : Value}
    (h : (seqRight p q c).result = .ok (some (b, e))) :
    ∃ a d, (p c).result = .ok (some (a, d)) ∧ (q d).result = .ok (some (b, e)) := by
  obtain ⟨o, ho, hk⟩ := Run.bind_eq_ok.mp h
  rcases o with _ | ⟨a, d⟩
  · cases hk
  · exact ⟨a, d, ho, hk⟩

theorem alt_ends {p q : Parser} (hp : (p c).Ends) (hq : (q c).Ends) : (alt p q c).Ends := by
  refine hp.bind fun o _ => ?_
  rcases o with _ | ⟨a, d⟩
  · refine hq.bind fun o' _ => ?_
    rcases o' with _ | ⟨b, e⟩
    · exact Run.ends_pure _
    · exact Run.ends_pure _
  · exact Run.ends_pure _

theorem optional_ends {p : Parser} (hp : (p c).Ends) : (optional p c).Ends := by
  refine hp.bind fun o _ => ?_
  rcases o with _ | ⟨a, d⟩
  · exact Run.ends_pure _
  · exact Run.ends_pure _

theorem not_ends {p : Parser} (hp : (p c).Ends) : (not p c).Ends := by
  refine hp.bind fun o _ => ?_
  rcases o with _ | ⟨a, d⟩
  · exact Run.ends_pure _
  · exact Run.ends_pure _

/-- A transformed parser ends when the parser does; a fault of the transformation ends it too. -/
theorem map_ends {p : Parser} (f : Value → Except Fault Value) (hp : (p c).Ends) :
    (map p f c).Ends := by
  refine hp.bind fun o _ => ?_
  rcases o with _ | ⟨a, d⟩
  · exact Run.ends_pure _
  · dsimp only
    split
    · exact Run.ends_pure _
    · exact Run.ends_fault _

theorem filter_ends {p : Parser} (ok : Value → Bool) (hp : (p c).Ends) :
    (filter p ok c).Ends := by
  refine hp.bind fun o _ => ?_
  rcases o with _ | ⟨a, d⟩
  · exact Run.ends_pure _
  · exact Run.ends_pure _

theorem traced_ends {p : Parser} (label : String) (hp : (p c).Ends) :
    (traced p label c).Ends := by
  refine (Run.ends_emit _).bind fun _ _ => hp.bind fun o _ => ?_
  rcases o with _ | ⟨a, d⟩
  · exact (Run.ends_emit _).bind fun _ _ => Run.ends_pure _
  · exact (Run.ends_emit _).bind fun _ _ => Run.ends_pure _

/-- A repetition's loop ends when it steps only from cursors of `P`, where the body ends and
    each match moves on to a cursor of `P` with fewer elements left; its count of steps only
    has to exceed the elements left. -/
theorem collect_ends {p : Parser} (P : Cursor Element → Prop) (hp : ∀ d, P d → (p d).Ends)
    (hstep : ∀ d a e, P d → (p d).result = .ok (some (a, e)) →
      P e ∧ e.position ≠ d.position ∧ e.remaining < d.remaining) :
    ∀ (f : Nat) (acc : Array Value) (d : Cursor Element), P d → d.remaining < f →
      (collect p f acc d).Ends := by
  intro f
  induction f with
  | zero =>
    intro acc d _ hf
    exact absurd hf (Nat.not_lt_zero _)
  | succ n ih =>
    intro acc d hd hf
    rw [collect]
    refine (hp d hd).bind fun o ho => ?_
    rcases o with _ | ⟨a, e⟩
    · exact Run.ends_pure _
    · -- the step moved on, so it is not stuck, and it left fewer elements than steps
      obtain ⟨he, hmove, hlt⟩ := hstep d a e hd ho
      dsimp only
      rw [if_neg hmove]
      exact ih (acc.push a) e he (by omega)

theorem many_ends {p : Parser} (P : Cursor Element → Prop) (hc : P c)
    (hp : ∀ d, P d → (p d).Ends)
    (hstep : ∀ d a e, P d → (p d).result = .ok (some (a, e)) →
      P e ∧ e.position ≠ d.position ∧ e.remaining < d.remaining) : (many p c).Ends := by
  refine (collect_ends P hp hstep _ #[] c hc (remaining_lt_budget c)).bind fun x _ => ?_
  obtain ⟨vs, d⟩ := x
  exact Run.ends_pure _

theorem many1_ends {p : Parser} (P : Cursor Element → Prop) (hc : P c)
    (hp : ∀ d, P d → (p d).Ends)
    (hstep : ∀ d a e, P d → (p d).result = .ok (some (a, e)) →
      P e ∧ e.position ≠ d.position ∧ e.remaining < d.remaining) : (many1 p c).Ends := by
  refine (hp c hc).bind fun o ho => ?_
  rcases o with _ | ⟨a, d⟩
  · exact Run.ends_pure _
  · refine (collect_ends P hp hstep _ #[a] d (hstep c a d hc ho).1
      (remaining_lt_budget d)).bind fun x _ => ?_
    obtain ⟨vs, e⟩ := x
    exact Run.ends_pure _

/-- A separated list's loop ends when it steps only from cursors of `P`, where the separator
    ends, the item after it ends, and the two together move on to a cursor of `P` with fewer
    elements left. -/
theorem collectSeparated_ends {item sep : Parser} (P : Cursor Element → Prop)
    (hsep : ∀ d, P d → (sep d).Ends)
    (hitem : ∀ d a d₁, P d → (sep d).result = .ok (some (a, d₁)) → (item d₁).Ends)
    (hstep : ∀ d a d₁ b e, P d → (sep d).result = .ok (some (a, d₁)) →
      (item d₁).result = .ok (some (b, e)) →
        P e ∧ e.position ≠ d.position ∧ e.remaining < d.remaining) :
    ∀ (f : Nat) (acc : Array Value) (d : Cursor Element), P d → d.remaining < f →
      (collectSeparated item sep f acc d).Ends := by
  intro f
  induction f with
  | zero =>
    intro acc d _ hf
    exact absurd hf (Nat.not_lt_zero _)
  | succ n ih =>
    intro acc d hd hf
    rw [collectSeparated]
    refine (hsep d hd).bind fun o ho => ?_
    rcases o with _ | ⟨a, d₁⟩
    · exact Run.ends_pure _
    · refine (hitem d a d₁ hd ho).bind fun o' ho' => ?_
      rcases o' with _ | ⟨b, e⟩
      · exact Run.ends_pure _
      · obtain ⟨he, hmove, hlt⟩ := hstep d a d₁ b e hd ho ho'
        dsimp only
        rw [if_neg hmove]
        exact ih (acc.push b) e he (by omega)

theorem sepBy_ends {item sep : Parser} (P : Cursor Element → Prop) (hfirst : (item c).Ends)
    (hstart : ∀ a d, (item c).result = .ok (some (a, d)) → P d)
    (hsep : ∀ d, P d → (sep d).Ends)
    (hitem : ∀ d a d₁, P d → (sep d).result = .ok (some (a, d₁)) → (item d₁).Ends)
    (hstep : ∀ d a d₁ b e, P d → (sep d).result = .ok (some (a, d₁)) →
      (item d₁).result = .ok (some (b, e)) →
        P e ∧ e.position ≠ d.position ∧ e.remaining < d.remaining) :
    (sepBy item sep c).Ends := by
  refine hfirst.bind fun o ho => ?_
  rcases o with _ | ⟨a, d⟩
  · exact Run.ends_pure _
  · refine (collectSeparated_ends P hsep hitem hstep _ #[a] d (hstart a d ho)
      (remaining_lt_budget d)).bind fun x _ => ?_
    obtain ⟨vs, e⟩ := x
    exact Run.ends_pure _

end Parser

namespace Grammar

/-! ## Well-formed grammars -/

/-- `p` can match reading nothing. -/
def Nullable (rules : Rules) (p : Grammar) : Prop :=
  ∃ c v d, (p.run rules c).result = .ok (some (v, d)) ∧ d.position = c.position

/-- Every match of `p` moves on. -/
def Advancing (rules : Rules) (p : Grammar) : Prop :=
  ∀ c v d, (p.run rules c).result = .ok (some (v, d)) → c.position < d.position

/-- Every repetition in `g`'s own tree moves on at each step: the body of a `many` or a
    `many1`, and the separator of a `sepBy` followed by its item. -/
def LoopsAdvance (rules : Rules) : Grammar → Prop
  | .many p | .many1 p => p.Advancing rules ∧ p.LoopsAdvance rules
  | .sepBy item sep =>
    (Grammar.seqRight sep item).Advancing rules ∧ item.LoopsAdvance rules ∧
      sep.LoopsAdvance rules
  | .seq p q | .seqLeft p q | .seqRight p q | .alt p q =>
    p.LoopsAdvance rules ∧ q.LoopsAdvance rules
  | .optional p | .not p | .map p _ | .filter p _ | .traced p _ | .lazy p | .boxed p =>
    p.LoopsAdvance rules
  | .between l p r => l.LoopsAdvance rules ∧ p.LoopsAdvance rules ∧ r.LoopsAdvance rules
  | .any | .endOfInput | .rewind | .ref _ | .accept _ | .satisfy _ | .literal _ => True

/-- `g` can reach a reference to `name` at the position where it starts: first in a sequence,
    or in a later part whose earlier parts can all match reading nothing, in either branch of
    a choice, under every other combinator, as the item of a separated list, and as its
    separator when the item before it can read nothing. -/
def CallsAtStart (rules : Rules) (name : String) : Grammar → Prop
  | .ref n => n = name
  | .seq p q | .seqLeft p q | .seqRight p q =>
    p.CallsAtStart rules name ∨ (p.Nullable rules ∧ q.CallsAtStart rules name)
  | .alt p q => p.CallsAtStart rules name ∨ q.CallsAtStart rules name
  | .sepBy item sep =>
    item.CallsAtStart rules name ∨ (item.Nullable rules ∧ sep.CallsAtStart rules name)
  | .between l p r =>
    l.CallsAtStart rules name ∨ (l.Nullable rules ∧ p.CallsAtStart rules name) ∨
      (l.Nullable rules ∧ p.Nullable rules ∧ r.CallsAtStart rules name)
  | .many p | .many1 p | .optional p | .not p | .map p _ | .filter p _ | .traced p _
  | .lazy p | .boxed p => p.CallsAtStart rules name
  | .any | .endOfInput | .rewind | .accept _ | .satisfy _ | .literal _ => False

/-- The rule `name` calls the rule `name'` at the position where it started. -/
def LeftCalls (rules : Rules) (name name' : String) : Prop :=
  ∃ h, rules.lookup name = some h ∧ h.CallsAtStart rules name'

/-- `g` is well formed over `rules`: its repetitions, and those of every rule it reaches,
    move on at each step, and no rule calls itself at its start, through others. -/
structure WellFormed (rules : Rules) (g : Grammar) : Prop where
  loops : g.LoopsAdvance rules
  rule_loops : ∀ name h, g.Reaches rules name → rules.lookup name = some h →
    h.LoopsAdvance rules
  acyclic : ∀ name, ¬ Relation.TransGen (LeftCalls rules) name name

variable {rules : Rules}

/-- A rule that a well-formed grammar refers to is well formed. -/
theorem WellFormed.rule {g h : Grammar} {name : String} (hw : WellFormed rules g)
    (hn : name ∈ g.refs) (hh : rules.lookup name = some h) : WellFormed rules h where
  loops := hw.rule_loops name h (.ref hn) hh
  rule_loops name' h' hr hh' := hw.rule_loops name' h' (.rule hn hh hr) hh'
  acyclic := hw.acyclic

/-- A run at any depth that gives a result gives the result of the full run. -/
theorem run_of_runWith {k : Nat} {A : List (String × Nat)} {g : Grammar} {c : Cursor Element}
    {o : Outcome} (h : (runWith rules k A g c).result = .ok o) :
    (g.run rules c).result = .ok o := by
  have hne : (runWith rules k A g c).result ≠ .error .diverges := by
    rw [h]
    simp
  rw [← (runWith_approx_run k A g c).eq_of_ne hne]
  exact h

/-! ## Cursors ready for a grammar -/

variable {s : Array Element} {lo : Nat} {A : List (String × Nat)}

/-- A cursor from which `g` may run while the expansions `A` are under way: on the source
    `s`, at or after `lo` and every position in `A`, and such that each rule under way at
    this position calls, at its start and through others, every rule that `g` calls at its
    start. -/
structure Ready (rules : Rules) (s : Array Element) (lo : Nat) (A : List (String × Nat))
    (g : Grammar) (c : Cursor Element) : Prop where
  source_eq : c.source = s
  lo_le : lo ≤ c.position
  active_le : ∀ x ∈ A, x.2 ≤ c.position
  calls : ∀ name, g.CallsAtStart rules name → ∀ N, (N, c.position) ∈ A →
    Relation.TransGen (LeftCalls rules) N name

/-- Readiness carries forward to a grammar that runs further on, or at the same position
    when whatever it calls at its start, the first grammar calls at its start too: no
    expansion under way started after the first cursor. -/
theorem Ready.next {g g' : Grammar} {c d : Cursor Element} (h : Ready rules s lo A g c)
    (hcd : Cursor.Forward c d)
    (hstay : d.position = c.position →
      ∀ name, g'.CallsAtStart rules name → g.CallsAtStart rules name) :
    Ready rules s lo A g' d where
  source_eq := hcd.1.trans h.source_eq
  lo_le := h.lo_le.trans hcd.2
  active_le x hx := (h.active_le x hx).trans hcd.2
  calls name hname N hN := by
    by_cases hpos : d.position = c.position
    · rw [hpos] at hN
      exact h.calls name (hstay hpos name hname) N hN
    · have hle : d.position ≤ c.position := h.active_le _ hN
      have := hcd.2
      omega

theorem Ready.sub {g g' : Grammar} {c : Cursor Element} (h : Ready rules s lo A g c)
    (hsub : ∀ name, g'.CallsAtStart rules name → g.CallsAtStart rules name) :
    Ready rules s lo A g' c :=
  h.next (Cursor.forward_stepOrder.refl c) fun _ => hsub

/-- After a match of `p` from a ready cursor, the cursor it leaves is ready for a grammar `q`
    whose calls at its start are calls at the start of `g` once `p` can read nothing. -/
theorem Ready.after {E : String → Parser} {g p q : Grammar} {c d : Cursor Element} {a : Value}
    (h : Ready rules s lo A g c)
    (hrun : ∀ c o, (p.eval E c).result = .ok o → (p.run rules c).result = .ok o)
    (hpf : Parser.Keeps Cursor.Forward (p.eval E)) (hd : (p.eval E c).result = .ok (some (a, d)))
    (hcalls : ∀ name, p.Nullable rules → q.CallsAtStart rules name →
      g.CallsAtStart rules name) :
    Ready rules s lo A q d :=
  h.next (hpf c a d hd) fun hstay name hn => hcalls name ⟨c, a, d, hrun c _ hd, hstay⟩ hn

/-- Entering a rule from a ready reference leaves the cursor ready for the rule's grammar,
    with the rule under way: the rule calls what its grammar calls at its start, and each
    rule under way here calls the rule. -/
theorem Ready.push {name : String} {h : Grammar} {c : Cursor Element}
    (hc : Ready rules s lo A (.ref name) c) (hh : rules.lookup name = some h) :
    Ready rules s lo ((name, c.position) :: A) h c where
  source_eq := hc.source_eq
  lo_le := hc.lo_le
  active_le x hx := by
    rcases List.mem_cons.mp hx with rfl | hx
    · exact Nat.le_refl _
    · exact hc.active_le x hx
  calls name' hn N hN := by
    rcases List.mem_cons.mp hN with hN | hN
    · obtain ⟨rfl, -⟩ := Prod.mk.inj hN
      exact .single ⟨h, hh, hn⟩
    · exact .tail (hc.calls name rfl N hN) ⟨h, hh, hn⟩

/-- A step of a repetition whose body moves on: forward of where the repetition started, off
    the cursor it stepped from, with fewer elements left. -/
theorem advancing_step {E : String → Parser} {p : Grammar} (hadv : p.Advancing rules)
    (hrun : ∀ c o, (p.eval E c).result = .ok o → (p.run rules c).result = .ok o)
    (hpf : Parser.Keeps Cursor.Forward (p.eval E)) {c d e : Cursor Element} {a : Value}
    (hd : Cursor.Forward c d) (he : (p.eval E d).result = .ok (some (a, e))) :
    Cursor.Forward c e ∧ e.position ≠ d.position ∧ e.remaining < d.remaining := by
  have hde := hpf d a e he
  have hlt := hadv d a e (hrun d _ he)
  exact ⟨Cursor.forward_stepOrder.trans hd hde, by omega, hde.remaining_lt (by omega)⟩

/-! ## No run diverges -/

/-- A reading of a well-formed grammar without `rewind` ends from every ready cursor when its
    references end from every ready cursor and read forward, and when every match at this
    depth is a match of the full run. -/
theorem eval_ends {E : String → Parser} {g : Grammar} (hrw : g.hasRewind = false)
    (hloops : g.LoopsAdvance rules)
    (hE : ∀ name ∈ g.refs, (∀ c, Ready rules s lo A (.ref name) c → (E name c).Ends) ∧
      Parser.Keeps Cursor.Forward (E name))
    (hrun : ∀ (p : Grammar) c o, (p.eval E c).result = .ok o → (p.run rules c).result = .ok o) :
    ∀ c, Ready rules s lo A g c → (g.eval E c).Ends := by
  induction g with
  | any | accept _ | satisfy _ => exact fun c _ => Parser.satisfy_ends _ c
  | endOfInput => exact fun c _ => Parser.endOfInput_ends c
  | rewind => cases hrw
  | literal t => exact fun c _ => Parser.literal_ends t c
  | ref name => exact (hE name (by simp [refs])).1
  | seq p q ihp ihq =>
    simp only [refs, List.mem_append, hasRewind, Bool.or_eq_false_iff, LoopsAdvance]
      at hE hrw hloops
    have hp := ihp hrw.1 hloops.1 fun n hn => hE n (.inl hn)
    have hq := ihq hrw.2 hloops.2 fun n hn => hE n (.inr hn)
    have hpf := eval_forward hrw.1 fun n hn => (hE n (.inl hn)).2
    intro c hc
    exact Parser.seq_ends (hp c (hc.sub fun _ => Or.inl)) fun a d hd =>
      hq d (hc.after (hrun p) hpf hd fun _ hn h => Or.inr ⟨hn, h⟩)
  | seqLeft p q ihp ihq =>
    simp only [refs, List.mem_append, hasRewind, Bool.or_eq_false_iff, LoopsAdvance]
      at hE hrw hloops
    have hp := ihp hrw.1 hloops.1 fun n hn => hE n (.inl hn)
    have hq := ihq hrw.2 hloops.2 fun n hn => hE n (.inr hn)
    have hpf := eval_forward hrw.1 fun n hn => (hE n (.inl hn)).2
    intro c hc
    exact Parser.seqLeft_ends (hp c (hc.sub fun _ => Or.inl)) fun a d hd =>
      hq d (hc.after (hrun p) hpf hd fun _ hn h => Or.inr ⟨hn, h⟩)
  | seqRight p q ihp ihq =>
    simp only [refs, List.mem_append, hasRewind, Bool.or_eq_false_iff, LoopsAdvance]
      at hE hrw hloops
    have hp := ihp hrw.1 hloops.1 fun n hn => hE n (.inl hn)
    have hq := ihq hrw.2 hloops.2 fun n hn => hE n (.inr hn)
    have hpf := eval_forward hrw.1 fun n hn => (hE n (.inl hn)).2
    intro c hc
    exact Parser.seqRight_ends (hp c (hc.sub fun _ => Or.inl)) fun a d hd =>
      hq d (hc.after (hrun p) hpf hd fun _ hn h => Or.inr ⟨hn, h⟩)
  | alt p q ihp ihq =>
    simp only [refs, List.mem_append, hasRewind, Bool.or_eq_false_iff, LoopsAdvance]
      at hE hrw hloops
    have hp := ihp hrw.1 hloops.1 fun n hn => hE n (.inl hn)
    have hq := ihq hrw.2 hloops.2 fun n hn => hE n (.inr hn)
    intro c hc
    exact Parser.alt_ends (hp c (hc.sub fun _ => Or.inl)) (hq c (hc.sub fun _ => Or.inr))
  | sepBy item sep ihi ihs =>
    simp only [refs, List.mem_append, hasRewind, Bool.or_eq_false_iff, LoopsAdvance]
      at hE hrw hloops
    obtain ⟨hadv, hli, hls⟩ := hloops
    have hi := ihi hrw.1 hli fun n hn => hE n (.inl hn)
    have hs := ihs hrw.2 hls fun n hn => hE n (.inr hn)
    have hif := eval_forward hrw.1 fun n hn => (hE n (.inl hn)).2
    have hsf := eval_forward hrw.2 fun n hn => (hE n (.inr hn)).2
    intro c hc
    -- the loop steps from cursors after the first item; it is back at the start of the list
    -- only when that item read nothing, and the separator is then called at the start
    refine Parser.sepBy_ends
      (fun d => Cursor.Forward c d ∧ (d.position = c.position → item.Nullable rules))
      (hi c (hc.sub fun _ => Or.inl))
      (fun a d hd => ⟨hif c a d hd, fun hstay => ⟨c, a, d, hrun item c _ hd, hstay⟩⟩)
      (fun d hd => hs d (hc.next hd.1 fun hstay _ hn => Or.inr ⟨hd.2 hstay, hn⟩))
      (fun d a d₁ hd hd₁ => hi d₁ (hc.next (Cursor.forward_stepOrder.trans hd.1
        (hsf d a d₁ hd₁)) fun _ _ hn => Or.inl hn))
      fun d a d₁ b e hd hd₁ he => ?_
    -- a separator with the item after it moves on
    have hpair : ((Grammar.seqRight sep item).eval E d).result = .ok (some (b, e)) :=
      (Parser.seqRight_result hd₁).trans he
    have hlt := hadv d b e (hrun _ d _ hpair)
    have hde := Cursor.forward_stepOrder.trans (hsf d a d₁ hd₁) (hif d₁ b e he)
    have hce := Cursor.forward_stepOrder.trans hd.1 hde
    refine ⟨⟨hce, fun hstay => absurd hstay ?_⟩, by omega, hde.remaining_lt (by omega)⟩
    have := hd.1.2
    omega
  | between l p r ihl ihp ihr =>
    simp only [refs, List.mem_append, hasRewind, Bool.or_eq_false_iff, LoopsAdvance]
      at hE hrw hloops
    have hl := ihl hrw.1.1 hloops.1 fun n hn => hE n (.inl (.inl hn))
    have hp := ihp hrw.1.2 hloops.2.1 fun n hn => hE n (.inl (.inr hn))
    have hr := ihr hrw.2 hloops.2.2 fun n hn => hE n (.inr hn)
    have hlf := eval_forward hrw.1.1 fun n hn => (hE n (.inl (.inl hn))).2
    have hpf := eval_forward hrw.1.2 fun n hn => (hE n (.inl (.inr hn))).2
    intro c hc
    -- the opening and the part taken together, then the closing part
    show (Parser.between (l.eval E) (p.eval E) (r.eval E) c).Ends
    rw [Parser.between_eq_seqLeft]
    refine Parser.seqLeft_ends (Parser.seqRight_ends (hl c (hc.sub fun _ => Or.inl))
      fun a d hd => hp d (hc.after (hrun l) hlf hd fun _ hn h => Or.inr (Or.inl ⟨hn, h⟩)))
      fun b e he => ?_
    -- the closing part runs after both others; at the start only if neither read anything
    obtain ⟨a, d, hd, he'⟩ := Parser.seqRight_ok he
    have hcd := hlf c a d hd
    have hde := hpf d b e he'
    refine hr e (hc.next (Cursor.forward_stepOrder.trans hcd hde) fun hstay name hn => ?_)
    have h₁ : d.position = c.position := by
      have := hcd.2
      have := hde.2
      omega
    have h₂ : e.position = d.position := by omega
    have hln : l.Nullable rules := ⟨c, a, d, hrun l c _ hd, h₁⟩
    have hpn : p.Nullable rules := ⟨d, b, e, hrun p d _ he', h₂⟩
    exact Or.inr (Or.inr ⟨hln, hpn, hn⟩)
  | many p ih =>
    simp only [refs, hasRewind, LoopsAdvance] at hE hrw hloops
    have hp := ih hrw hloops.2 hE
    have hpf := eval_forward hrw fun n hn => (hE n hn).2
    intro c hc
    exact Parser.many_ends (fun d => Cursor.Forward c d) (Cursor.forward_stepOrder.refl c)
      (fun d hd => hp d (hc.next hd fun _ _ hn => hn))
      fun d a e hd he => advancing_step hloops.1 (hrun p) hpf hd he
  | many1 p ih =>
    simp only [refs, hasRewind, LoopsAdvance] at hE hrw hloops
    have hp := ih hrw hloops.2 hE
    have hpf := eval_forward hrw fun n hn => (hE n hn).2
    intro c hc
    exact Parser.many1_ends (fun d => Cursor.Forward c d) (Cursor.forward_stepOrder.refl c)
      (fun d hd => hp d (hc.next hd fun _ _ hn => hn))
      fun d a e hd he => advancing_step hloops.1 (hrun p) hpf hd he
  | optional p ih =>
    exact fun c hc => Parser.optional_ends (ih hrw hloops hE c (hc.sub fun _ hn => hn))
  | not p ih =>
    exact fun c hc => Parser.not_ends (ih hrw hloops hE c (hc.sub fun _ hn => hn))
  | map p f ih =>
    exact fun c hc => Parser.map_ends _ (ih hrw hloops hE c (hc.sub fun _ hn => hn))
  | filter p q ih =>
    exact fun c hc => Parser.filter_ends _ (ih hrw hloops hE c (hc.sub fun _ hn => hn))
  | traced p label ih =>
    exact fun c hc => Parser.traced_ends label (ih hrw hloops hE c (hc.sub fun _ hn => hn))
  | lazy p ih | boxed p ih =>
    exact fun c hc => ih hrw hloops hE c (hc.sub fun _ hn => hn)

/-- A reference from a ready cursor does not meet its rule under way: every rule under way
    here calls it at its start, and no rule calls itself so. It is therefore expanded, and
    ends when the rule's grammar ends from the same cursor with the rule under way. -/
theorem expandRule_ends {next : List (String × Nat) → Grammar → Parser} {name : String}
    {c : Cursor Element} (hacyc : ∀ name, ¬ Relation.TransGen (LeftCalls rules) name name)
    (hc : Ready rules s lo A (.ref name) c)
    (hnext : ∀ h, rules.lookup name = some h → (name, c.position) ∉ A →
      Ready rules s lo ((name, c.position) :: A) h c →
        (next ((name, c.position) :: A) h c).Ends) :
    (expandRule rules A next name c).Ends := by
  simp only [expandRule]
  cases hh : rules.lookup name with
  | none => exact Run.ends_pure _
  | some h =>
    dsimp only
    have hnot : (name, c.position) ∉ A := fun hin => hacyc name (hc.calls name rfl name hin)
    rw [if_neg hnot]
    exact hnext h hh hnot (hc.push hh)

/-- No run of a well-formed grammar without `rewind` diverges from a ready cursor, at a depth
    that leaves room for every expansion still possible: those under way are distinct pairs
    of a rule and a position from `lo` to the end, and each expansion adds one. -/
theorem runWith_ends : ∀ (k : Nat) (A : List (String × Nat)) (g : Grammar),
    RewindFree rules g → WellFormed rules g → Active rules lo s.size A →
      rules.length * (s.size + 1 - lo) ≤ A.length + k →
        ∀ c, Ready rules s lo A g c → (runWith rules k A g c).Ends := by
  -- each expansion takes one unit of depth and puts one more pair under way, so the depth
  -- left and the pairs under way together stay above the number of pairs there can be
  intro k
  induction k with
  | zero =>
    intro A g hg hw hA hbound
    refine eval_ends hg.1 hw.loops (fun name hn => ⟨fun d hd => ?_, runWith_forward 0 A
      (hg.ref hn)⟩) fun p d o h => run_of_runWith (k := 0) (A := A) (g := p) h
    refine expandRule_ends hw.acyclic hd fun h hh hnot _ => ?_
    -- at depth 0 a new expansion would be one more than there can be
    have hA' := hA.cons hh hd.lo_le (hd.source_eq ▸ d.position_le) hnot
    have := hA'.length_le
    simp only [List.length_cons] at this
    omega
  | succ n ih =>
    intro A g hg hw hA hbound
    refine eval_ends hg.1 hw.loops (fun name hn => ⟨fun d hd => ?_, runWith_forward (n + 1) A
      (hg.ref hn)⟩) fun p d o h => run_of_runWith (k := n + 1) (A := A) (g := p) h
    refine expandRule_ends hw.acyclic hd fun h hh hnot hready => ?_
    have hA' := hA.cons hh hd.lo_le (hd.source_eq ▸ d.position_le) hnot
    refine ih _ h (hg.rule hn hh) (hw.rule hn hh) hA' ?_ d hready
    simp only [List.length_cons]
    omega

/-- A well-formed grammar without `rewind` ends on every cursor: with a depth of at least
    `rules.length * (c.remaining + 1)`, which depends only on the rules and on the elements
    left, no run from `c` diverges, and neither does `run`. -/
theorem run_ends {g : Grammar} (hg : RewindFree rules g) (hw : WellFormed rules g)
    (c : Cursor Element) :
    (∀ k, rules.length * (c.remaining + 1) ≤ k →
      (runWith rules k [] g c).result ≠ .error .diverges) ∧
      (g.run rules c).result ≠ .error .diverges := by
  have hready : Ready rules c.source c.position [] g c :=
    ⟨rfl, Nat.le_refl _, by simp, by simp⟩
  have hk : ∀ k, rules.length * (c.remaining + 1) ≤ k → (runWith rules k [] g c).Ends := by
    intro k hk
    refine runWith_ends k [] g hg hw (Active.nil _ _) ?_ c hready
    -- the positions from the cursor to the end are one more than the elements left
    have hwin : c.source.size + 1 - c.position = c.remaining + 1 := by
      have := c.position_le
      simp only [Cursor.remaining]
      omega
    rw [hwin, List.length_nil, Nat.zero_add]
    exact hk
  refine ⟨hk, hk _ ?_⟩
  have := c.position_le
  simp only [depth, Cursor.remaining]
  exact Nat.mul_le_mul_left _ (by omega)

/-- A repetition of `any`, and the rule `N` itself, over rules where `N` reads an element and
    then, optionally, `N` again: the rule calls itself only after reading, and `any` always
    reads, so both end, here on `ab`. -/
theorem run_ends_many_any :
    RewindFree [("N", .seq .any (.optional (.ref "N")))] (.many .any) ∧
      WellFormed [("N", .seq .any (.optional (.ref "N")))] (.many .any) ∧
      ((∀ k, [("N", Grammar.seq .any (.optional (.ref "N")))].length *
            ((Cursor.start #[Element.char 'a', .char 'b']).remaining + 1) ≤ k →
          (runWith [("N", .seq .any (.optional (.ref "N")))] k [] (.many .any)
            (Cursor.start #[Element.char 'a', .char 'b'])).result ≠ .error .diverges) ∧
        ((Grammar.many .any).run [("N", .seq .any (.optional (.ref "N")))]
          (Cursor.start #[Element.char 'a', .char 'b'])).result ≠ .error .diverges) ∧
    RewindFree [("N", .seq .any (.optional (.ref "N")))] (.ref "N") ∧
      WellFormed [("N", .seq .any (.optional (.ref "N")))] (.ref "N") ∧
      ((∀ k, [("N", Grammar.seq .any (.optional (.ref "N")))].length *
            ((Cursor.start #[Element.char 'a', .char 'b']).remaining + 1) ≤ k →
          (runWith [("N", .seq .any (.optional (.ref "N")))] k [] (.ref "N")
            (Cursor.start #[Element.char 'a', .char 'b'])).result ≠ .error .diverges) ∧
        ((Grammar.ref "N").run [("N", .seq .any (.optional (.ref "N")))]
          (Cursor.start #[Element.char 'a', .char 'b'])).result ≠ .error .diverges) := by
  -- `any` reads one element, whatever the depth of the run
  have hany : Advancing [("N", .seq .any (.optional (.ref "N")))] .any := by
    intro c v d h
    have hrun : Grammar.any.run [("N", .seq .any (.optional (.ref "N")))] c = Parser.any c := by
      show runWith _ (depth _ c) [] .any c = _
      cases depth [("N", Grammar.seq .any (.optional (.ref "N")))] c <;> rfl
    rw [hrun] at h
    have := Parser.satisfy_position h
    omega
  have hnull : ¬ Nullable [("N", .seq .any (.optional (.ref "N")))] .any := by
    rintro ⟨c, v, d, h, hpos⟩
    have := hany c v d h
    omega
  -- the only rule is `N`'s
  have hrule : ∀ name h, [("N", Grammar.seq .any (.optional (.ref "N")))].lookup name = some h →
      h = .seq .any (.optional (.ref "N")) := by
    intro name h hh
    rw [List.lookup_cons] at hh
    split at hh
    · cases hh
      rfl
    · cases hh
  -- it starts with `any`, so it calls nothing at its start
  have hcalls : ∀ n m, ¬ LeftCalls [("N", .seq .any (.optional (.ref "N")))] n m := by
    rintro n m ⟨h, hh, hm⟩
    obtain rfl := hrule n h hh
    simp only [CallsAtStart] at hm
    rcases hm with hm | ⟨hn, -⟩
    · exact hm
    · exact hnull hn
  have hacyclic : ∀ name,
      ¬ Relation.TransGen (LeftCalls [("N", .seq .any (.optional (.ref "N")))]) name name := by
    intro name hcyc
    cases hcyc with
    | single h => exact hcalls _ _ h
    | tail _ h => exact hcalls _ _ h
  have hg : RewindFree [("N", .seq .any (.optional (.ref "N")))] (.many .any) :=
    ⟨rfl, fun _ _ hr _ => by cases hr with
      | ref hn => cases hn
      | rule hn _ _ => cases hn⟩
  have hw : WellFormed [("N", .seq .any (.optional (.ref "N")))] (.many .any) := by
    refine ⟨⟨hany, trivial⟩, fun _ _ hr _ => ?_, hacyclic⟩
    cases hr with
    | ref hn => cases hn
    | rule hn _ _ => cases hn
  -- every rule the reference reaches is `N`'s, without `rewind` and with no repetition
  have hgN : RewindFree [("N", .seq .any (.optional (.ref "N")))] (.ref "N") := by
    refine ⟨rfl, fun name h _ hh => ?_⟩
    rw [hrule name h hh]
    rfl
  have hwN : WellFormed [("N", .seq .any (.optional (.ref "N")))] (.ref "N") := by
    refine ⟨trivial, fun name h _ hh => ?_, hacyclic⟩
    rw [hrule name h hh]
    exact ⟨trivial, trivial⟩
  exact ⟨hg, hw, run_ends hg hw _, hgN, hwN, run_ends hgN hwN _⟩

end Grammar

end Descent
