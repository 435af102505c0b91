import Descent.Proofs.Bracket
import Mathlib.Data.List.Forall2

/-! # Wrappers are transparent

    Three combinators wrap a grammar without changing what it reads: `lazy` and `boxed`
    parse as their inner grammar, and a labelled grammar only reports its attempt and its
    close around its inner run. Deleting any of these wrappers, in a grammar and in its rules
    (`Grammar.Unwraps`), therefore leaves every run with the same result, and takes out of
    its trace exactly the events of the labelled grammars deleted (`Trace.Erases`): each
    one's attempt and, when its inner run gave a result, the event that closed it, with the
    events of its inner run kept in between.

    The two runs keep step: the same cursors, the same expansions under way, the same
    steps of every loop, so a run is simulated by its unwrapped run one combinator at a
    time (`Parser.Erases`). Deleting all the labelled grammars whose labels are in a set
    takes out exactly the events with those labels.
-/

namespace Descent

/-- The label an event carries. -/
def Event.label : Event → String
  | .attempt label _ | .matched label _ _ | .noMatch label _ => label

/-- The attempt a closing event closes; `none` for an attempt. -/
def Event.closed? : Event → Option (String × Nat)
  | .attempt .. => none
  | .matched label p _ => some (label, p)
  | .noMatch label p => some (label, p)

/-- Every closing event of a labelled parser closes its attempt. -/
theorem Event.closed?_of_mem_closing {label : String} {c : Cursor Element} {o : Outcome}
    {e : Event} (h : e ∈ Event.closing label c (.ok o)) : e.closed? = some (label, c.position) := by
  rcases o with _ | ⟨v, d⟩ <;> simp_all [Event.closing, Event.closed?]

/-- The closing events of a labelled parser carry its label. -/
theorem Event.label_of_mem_closing {label : String} {c : Cursor Element}
    {x : Except Stop Outcome} {e : Event} (h : e ∈ Event.closing label c x) : e.label = label := by
  rcases x with s | _ | ⟨v, d⟩ <;> simp_all [Event.closing, Event.label]

/-! ## Deleting wrappers -/

/-- `g'` is `g` with some of its wrappers deleted: any `lazy` and `boxed` wrapper, and any
    labelled wrapper whose label is in `D`. -/
inductive Grammar.Unwraps (D : String → Bool) : Grammar → Grammar → Prop
  | any : Grammar.Unwraps D .any .any
  | endOfInput : Grammar.Unwraps D .endOfInput .endOfInput
  | rewind : Grammar.Unwraps D .rewind .rewind
  | accept (e : Element) : Grammar.Unwraps D (.accept e) (.accept e)
  | satisfy (q : Predicate) : Grammar.Unwraps D (.satisfy q) (.satisfy q)
  | literal (s : String) : Grammar.Unwraps D (.literal s) (.literal s)
  | ref (name : String) : Grammar.Unwraps D (.ref name) (.ref name)
  | seq {p p' q q' : Grammar} :
      Grammar.Unwraps D p p' → Grammar.Unwraps D q q' → Grammar.Unwraps D (.seq p q) (.seq p' q')
  | seqLeft {p p' q q' : Grammar} : Grammar.Unwraps D p p' → Grammar.Unwraps D q q' →
      Grammar.Unwraps D (.seqLeft p q) (.seqLeft p' q')
  | seqRight {p p' q q' : Grammar} : Grammar.Unwraps D p p' → Grammar.Unwraps D q q' →
      Grammar.Unwraps D (.seqRight p q) (.seqRight p' q')
  | alt {p p' q q' : Grammar} :
      Grammar.Unwraps D p p' → Grammar.Unwraps D q q' → Grammar.Unwraps D (.alt p q) (.alt p' q')
  | many {p p' : Grammar} : Grammar.Unwraps D p p' → Grammar.Unwraps D (.many p) (.many p')
  | many1 {p p' : Grammar} : Grammar.Unwraps D p p' → Grammar.Unwraps D (.many1 p) (.many1 p')
  | optional {p p' : Grammar} :
      Grammar.Unwraps D p p' → Grammar.Unwraps D (.optional p) (.optional p')
  | not {p p' : Grammar} : Grammar.Unwraps D p p' → Grammar.Unwraps D (.not p) (.not p')
  | map {p p' : Grammar} (f : Transform) :
      Grammar.Unwraps D p p' → Grammar.Unwraps D (.map p f) (.map p' f)
  | filter {p p' : Grammar} (q : Predicate) :
      Grammar.Unwraps D p p' → Grammar.Unwraps D (.filter p q) (.filter p' q)
  | between {l l' p p' r r' : Grammar} : Grammar.Unwraps D l l' → Grammar.Unwraps D p p' →
      Grammar.Unwraps D r r' → Grammar.Unwraps D (.between l p r) (.between l' p' r')
  | sepBy {item item' sep sep' : Grammar} : Grammar.Unwraps D item item' →
      Grammar.Unwraps D sep sep' → Grammar.Unwraps D (.sepBy item sep) (.sepBy item' sep')
  | traced {p p' : Grammar} (label : String) :
      Grammar.Unwraps D p p' → Grammar.Unwraps D (.traced p label) (.traced p' label)
  | lazy {p p' : Grammar} : Grammar.Unwraps D p p' → Grammar.Unwraps D (.lazy p) (.lazy p')
  | boxed {p p' : Grammar} : Grammar.Unwraps D p p' → Grammar.Unwraps D (.boxed p) (.boxed p')
  | dropTraced {p p' : Grammar} {label : String} :
      D label = true → Grammar.Unwraps D p p' → Grammar.Unwraps D (.traced p label) p'
  | dropLazy {p p' : Grammar} : Grammar.Unwraps D p p' → Grammar.Unwraps D (.lazy p) p'
  | dropBoxed {p p' : Grammar} : Grammar.Unwraps D p p' → Grammar.Unwraps D (.boxed p) p'

/-- `rules'` are `rules` with some wrappers deleted from each rule's grammar, under the same
    names in the same order. -/
def Rules.Unwraps (D : String → Bool) (rules rules' : Rules) : Prop :=
  List.Forall₂ (fun x y => x.1 = y.1 ∧ Grammar.Unwraps D x.2 y.2) rules rules'

/-- A name has a rule in one list exactly when it has one in the other, and the second rule
    is the first with wrappers deleted. -/
theorem Rules.Unwraps.lookup {D : String → Bool} {rules rules' : Rules}
    (h : Rules.Unwraps D rules rules') (name : String) :
    Option.Rel (Grammar.Unwraps D) (rules.lookup name) (rules'.lookup name) := by
  induction h with
  | nil => exact .none
  | @cons x y xs ys hxy _ ih =>
    obtain ⟨n, g⟩ := x
    obtain ⟨n', g'⟩ := y
    obtain ⟨hn, hg⟩ := hxy
    dsimp only at hn hg
    subst hn
    rw [List.lookup_cons, List.lookup_cons]
    cases name == n with
    | true => exact .some hg
    | false => exact ih

/-! ## Erasing events -/

namespace Trace

/-- `w'` is the trace `w` with the events of some labelled parsers whose labels are in `D`
    taken out: each one's attempt and, when the events after it up to its closing event are
    balanced, that closing event; what ran in between stays. With `complete`, every attempt
    taken out was closed; otherwise the attempts taken out last may be unclosed, when nothing
    after them closes what was open before them. -/
inductive Erases (D : String → Bool) : Bool → List Event → List Event → Prop
  | nil {complete : Bool} : Erases D complete [] []
  | keep {complete : Bool} {w w' : List Event} (e : Event) :
      Erases D complete w w' → Erases D complete (e :: w) (e :: w')
  | dropClosed {complete : Bool} {label : String} {p : Nat} {e : Event}
      {w w' v v' : List Event} : D label = true → Balanced w → e.closed? = some (label, p) →
      Erases D true w w' → Erases D complete v v' →
      Erases D complete (.attempt label p :: (w ++ e :: v)) (w' ++ v')
  | dropOpen {label : String} {p : Nat} {w w' : List Event} : D label = true →
      (∃ S, scan [] w = some S) → Erases D false w w' →
      Erases D false (.attempt label p :: w) w'

variable {D : String → Bool}

theorem Erases.refl (complete : Bool) (w : List Event) : Erases D complete w w := by
  induction w with
  | nil => exact .nil
  | cons e w ih => exact .keep e ih

/-- A complete erasure followed by another is an erasure of the two traces together. -/
theorem Erases.append {complete : Bool} {w w' v v' : List Event} (hw : Erases D true w w')
    (hv : Erases D complete v v') : Erases D complete (w ++ v) (w' ++ v') := by
  generalize ht : true = t at hw
  induction hw with
  | nil => exact hv
  | keep e _ ih => exact .keep e (ih ht)
  | dropClosed hD hbal he hinner _ _ ihrest =>
    rw [List.cons_append, List.append_assoc, List.cons_append, List.append_assoc]
    exact .dropClosed hD hbal he hinner (ihrest ht)
  | dropOpen => cases ht

/-- Erasing the events of labels in `D` from a trace whose erasure carries no such label
    takes out exactly the events with those labels. -/
theorem Erases.eq_filter {complete : Bool} {w w' : List Event} (h : Erases D complete w w')
    (hw' : ∀ e ∈ w', D e.label = false) : w' = w.filter fun e => !D e.label := by
  induction h with
  | nil => rfl
  | keep e _ ih =>
    have he : D e.label = false := hw' e (List.mem_cons_self ..)
    rw [List.filter_cons_of_pos (by simp [he]), ih fun e' h => hw' e' (List.mem_cons_of_mem _ h)]
  | @dropClosed _ label p e w w' v v' hD _ he _ _ ihw ihv =>
    -- the attempt and its closing event both carry the label
    have hlabel : e.label = label := by
      cases e <;> simp_all [Event.closed?, Event.label]
    rw [List.filter_cons_of_neg (by simp [Event.label, hD]), List.filter_append,
      List.filter_cons_of_neg (by simp [hlabel, hD]),
      ihw fun e' h => hw' e' (List.mem_append_left _ h),
      ihv fun e' h => hw' e' (List.mem_append_right _ h)]
  | dropOpen hD _ _ ih =>
    rw [List.filter_cons_of_neg (by simp [Event.label, hD]), ih hw']

end Trace

/-! ## Runs with events erased -/

namespace Run

variable {β γ : Type} {D : String → Bool}

/-- `r'` has the result of `r`, and its trace is that of `r` with some events of labels in
    `D` erased, completely when `r` gave a result. -/
def Erases (D : String → Bool) (r r' : Run β) : Prop :=
  r'.result = r.result ∧ Trace.Erases D r.result.isOk r.events r'.events

theorem Erases.refl (r : Run β) : r.Erases D r := ⟨rfl, Trace.Erases.refl _ _⟩

/-- Runs that agree so stay so when followed by runs that agree after each result. -/
theorem Erases.bind {r r' : Run β} {f f' : β → Run γ} (h : r.Erases D r')
    (hf : ∀ b, r.result = .ok b → (f b).Erases D (f' b)) : (r >>= f).Erases D (r' >>= f') := by
  obtain ⟨hres, hev⟩ := h
  cases hr : r.result with
  | ok b =>
    rw [hr] at hres hev
    obtain ⟨hres', hev'⟩ := hf b hr
    rw [bind_of_ok hr, bind_of_ok hres]
    exact ⟨hres', hev.append hev'⟩
  | error s =>
    rw [hr] at hres hev
    rw [bind_of_error hr, bind_of_error hres]
    exact ⟨rfl, hev⟩

end Run

namespace Parser

/-- From every cursor, `p'` runs as `p` with some events of labels in `D` erased. -/
def Erases (D : String → Bool) (p p' : Parser) : Prop := ∀ c, (p c).Erases D (p' c)

section Erases

variable {D : String → Bool}

theorem Erases.refl (p : Parser) : Erases D p p := fun c => Run.Erases.refl (p c)

theorem andThen_erases {p p' : Parser} {k k' : Value → Parser} (hp : Erases D p p')
    (hk : ∀ a, Erases D (k a) (k' a)) : Erases D (p.andThen k) (p'.andThen k') := by
  intro c
  refine (hp c).bind fun o _ => ?_
  rcases o with _ | ⟨a, d⟩
  · exact Run.Erases.refl _
  · exact hk a d

theorem seq_erases {p p' q q' : Parser} (hp : Erases D p p') (hq : Erases D q q') :
    Erases D (seq p q) (seq p' q') :=
  andThen_erases hp fun _ => andThen_erases hq fun _ => Erases.refl _

theorem seqLeft_erases {p p' q q' : Parser} (hp : Erases D p p') (hq : Erases D q q') :
    Erases D (seqLeft p q) (seqLeft p' q') :=
  andThen_erases hp fun _ => andThen_erases hq fun _ => Erases.refl _

theorem seqRight_erases {p p' q q' : Parser} (hp : Erases D p p') (hq : Erases D q q') :
    Erases D (seqRight p q) (seqRight p' q') :=
  andThen_erases hp fun _ => hq

theorem between_erases {l l' p p' r r' : Parser} (hl : Erases D l l') (hp : Erases D p p')
    (hr : Erases D r r') : Erases D (between l p r) (between l' p' r') := by
  rw [between_eq_seqRight, between_eq_seqRight]
  exact seqRight_erases hl (seqLeft_erases hp hr)

theorem alt_erases {p p' q q' : Parser} (hp : Erases D p p') (hq : Erases D q q') :
    Erases D (alt p q) (alt p' q') := by
  intro c
  refine (hp c).bind fun o _ => ?_
  rcases o with _ | ⟨a, d⟩
  · refine (hq c).bind fun o' _ => ?_
    rcases o' with _ | ⟨b, e⟩ <;> exact Run.Erases.refl _
  · exact Run.Erases.refl _

/-- The parsers that run their part once and then decide from its outcome alone. -/
theorem bind_erases {p p' : Parser} (k : Cursor Element → Outcome → Run Outcome)
    (hp : Erases D p p') : Erases D (fun c => p c >>= k c) (fun c => p' c >>= k c) :=
  fun c => (hp c).bind fun _ _ => Run.Erases.refl _

theorem optional_erases {p p' : Parser} (hp : Erases D p p') :
    Erases D (optional p) (optional p') :=
  bind_erases _ hp

theorem not_erases {p p' : Parser} (hp : Erases D p p') : Erases D (not p) (not p') :=
  bind_erases _ hp

theorem map_erases {p p' : Parser} (f : Value → Except Fault Value) (hp : Erases D p p') :
    Erases D (map p f) (map p' f) :=
  bind_erases _ hp

theorem filter_erases {p p' : Parser} (ok : Value → Bool) (hp : Erases D p p') :
    Erases D (filter p ok) (filter p' ok) :=
  bind_erases _ hp

/-- A labelled parser kept on both sides keeps its attempt and its closing event. -/
theorem traced_erases {p p' : Parser} (label : String) (hp : Erases D p p') :
    Erases D (traced p label) (traced p' label) := by
  intro c
  obtain ⟨hres, hev⟩ := hp c
  rw [traced_eq, traced_eq, hres]
  refine ⟨rfl, .keep _ ?_⟩
  -- the closing event is the same on both sides, and comes only after a result
  cases hx : (p c).result with
  | ok o =>
    rw [hx] at hev
    exact hev.append (Trace.Erases.refl _ _)
  | error s =>
    rw [hx] at hev
    simpa [Event.closing] using hev

/-- A labelled parser deleted, with a label in `D`: its attempt and, after a result of its
    inner run, which reports a balanced trace, its closing event are taken out. -/
theorem traced_drop {p p' : Parser} {label : String} (hD : D label = true)
    (hbr : Reports Trace.Bracketed p) (hp : Erases D p p') : Erases D (traced p label) p' := by
  intro c
  obtain ⟨hres, hev⟩ := hp c
  rw [traced_eq]
  refine ⟨hres, ?_⟩
  have hb := hbr c
  unfold Run.Reports at hb
  cases hx : (p c).result with
  | ok o =>
    rw [hx] at hev hb
    -- the one closing event closes the attempt, after the balanced inner events
    obtain ⟨e, he⟩ : ∃ e, Event.closing label c (.ok o) = [e] := by
      rcases o with _ | ⟨v, d⟩ <;> exact ⟨_, rfl⟩
    have hclosed : e.closed? = some (label, c.position) :=
      Event.closed?_of_mem_closing (he ▸ List.mem_singleton_self e)
    rw [he, ← List.append_nil (p' c).events]
    exact .dropClosed hD hb hclosed hev .nil
  | error s =>
    rw [hx] at hev hb
    -- a stopped inner run gets no closing event: the attempt is taken out alone
    show Trace.Erases D false _ _
    simpa [Event.closing] using Trace.Erases.dropOpen hD hb hev

/-- The loops of a repetition keep step on both sides, one body run at a time. -/
theorem collect_erases {p p' : Parser} (hp : Erases D p p') :
    ∀ fuel acc c, (collect p fuel acc c).Erases D (collect p' fuel acc c) := by
  intro fuel
  induction fuel with
  | zero =>
    intro acc c
    rw [collect, collect]
    refine (hp c).bind fun o _ => ?_
    rcases o with _ | ⟨a, d⟩
    · exact Run.Erases.refl _
    · exact Run.Erases.refl _
  | succ n ih =>
    intro acc c
    rw [collect, collect]
    refine (hp c).bind fun o _ => ?_
    rcases o with _ | ⟨a, d⟩
    · exact Run.Erases.refl _
    · dsimp only
      split
      · exact Run.Erases.refl _
      · exact ih _ d

theorem many_erases {p p' : Parser} (hp : Erases D p p') : Erases D (many p) (many p') :=
  fun c => (collect_erases hp _ _ c).bind fun _ _ => Run.Erases.refl _

theorem many1_erases {p p' : Parser} (hp : Erases D p p') : Erases D (many1 p) (many1 p') := by
  intro c
  refine (hp c).bind fun o _ => ?_
  rcases o with _ | ⟨a, d⟩
  · exact Run.Erases.refl _
  · exact (collect_erases hp _ _ d).bind fun _ _ => Run.Erases.refl _

/-- The loops of a separated list keep step on both sides, one separator and item at a
    time. -/
theorem collectSeparated_erases {item item' sep sep' : Parser} (hitem : Erases D item item')
    (hsep : Erases D sep sep') :
    ∀ fuel acc c, (collectSeparated item sep fuel acc c).Erases D
      (collectSeparated item' sep' fuel acc c) := by
  intro fuel
  induction fuel with
  | zero =>
    intro acc c
    rw [collectSeparated, collectSeparated]
    refine (hsep c).bind fun o _ => ?_
    rcases o with _ | ⟨a, d⟩
    · exact Run.Erases.refl _
    · exact (hitem d).bind fun _ _ => Run.Erases.refl _
  | succ n ih =>
    intro acc c
    rw [collectSeparated, collectSeparated]
    refine (hsep c).bind fun o _ => ?_
    rcases o with _ | ⟨a, d⟩
    · exact Run.Erases.refl _
    · refine (hitem d).bind fun o' _ => ?_
      rcases o' with _ | ⟨b, e⟩
      · exact Run.Erases.refl _
      · dsimp only
        split
        · exact Run.Erases.refl _
        · exact ih _ e

theorem sepBy_erases {item item' sep sep' : Parser} (hitem : Erases D item item')
    (hsep : Erases D sep sep') : Erases D (sepBy item sep) (sepBy item' sep') := by
  intro c
  refine (hitem c).bind fun o _ => ?_
  rcases o with _ | ⟨a, d⟩
  · exact Run.Erases.refl _
  · exact (collectSeparated_erases hitem hsep _ _ d).bind fun _ _ => Run.Erases.refl _

end Erases

end Parser

/-! ## Grammars with wrappers deleted -/

namespace Grammar

variable {D : String → Bool}

/-- A grammar with wrappers deleted runs as the grammar with some events erased, when each
    reference does, and the references of the grammar report bracketed traces. -/
theorem eval_erases {E E' : String → Parser} {g g' : Grammar} (hg : g.Unwraps D g')
    (hE : ∀ name, Parser.Erases D (E name) (E' name))
    (hEb : ∀ name, Parser.Reports Trace.Bracketed (E name)) :
    Parser.Erases D (g.eval E) (g'.eval E') := by
  induction hg with
  | any | endOfInput | rewind | accept _ | satisfy _ | literal _ => exact Parser.Erases.refl _
  | ref name => exact hE name
  | seq _ _ ihp ihq => exact Parser.seq_erases ihp ihq
  | seqLeft _ _ ihp ihq => exact Parser.seqLeft_erases ihp ihq
  | seqRight _ _ ihp ihq => exact Parser.seqRight_erases ihp ihq
  | alt _ _ ihp ihq => exact Parser.alt_erases ihp ihq
  | many _ ih => exact Parser.many_erases ih
  | many1 _ ih => exact Parser.many1_erases ih
  | optional _ ih => exact Parser.optional_erases ih
  | not _ ih => exact Parser.not_erases ih
  | map f _ ih => exact Parser.map_erases _ ih
  | filter q _ ih => exact Parser.filter_erases _ ih
  | between _ _ _ ihl ihp ihr => exact Parser.between_erases ihl ihp ihr
  | sepBy _ _ ihi ihs => exact Parser.sepBy_erases ihi ihs
  | traced label _ ih => exact Parser.traced_erases label ih
  | lazy _ ih | boxed _ ih | dropLazy _ ih | dropBoxed _ ih => exact ih
  | @dropTraced p _ _ hD _ ih =>
    -- the deleted grammar's inner run reports a bracketed trace, as every reading does
    have hbr : Parser.Reports Trace.Bracketed (p.eval E) :=
      eval_reports Trace.bracketed_law (fun name _ => hEb name)
        (fun label _ => Trace.bracketed_traced label) fun t _ => Trace.bracketed_fault t.apply
    exact Parser.traced_drop hD hbr ih

/-- A reference expands into rules with wrappers deleted as it does into the rules. -/
theorem expandRule_erases {rules rules' : Rules} (hR : Rules.Unwraps D rules rules')
    {A : List (String × Nat)} {next next' : List (String × Nat) → Grammar → Parser}
    (hnext : ∀ B h h', h.Unwraps D h' → Parser.Erases D (next B h) (next' B h'))
    (name : String) :
    Parser.Erases D (expandRule rules A next name) (expandRule rules' A next' name) := by
  intro c
  have hl := hR.lookup name
  simp only [expandRule]
  cases h₁ : rules.lookup name <;> cases h₂ : rules'.lookup name <;> rw [h₁, h₂] at hl <;>
    cases hl
  · exact Run.Erases.refl _
  · -- the same rule is under way at the same position on both sides
    dsimp only
    split
    · exact Run.Erases.refl _
    · exact hnext _ _ _ ‹_› c

/-- Runs of a grammar and of the grammar with wrappers deleted, over rules and the rules
    with wrappers deleted, keep step at every depth, with the same expansions under way. -/
theorem runWith_erases {rules rules' : Rules} (hR : Rules.Unwraps D rules rules') :
    ∀ (k : Nat) (A : List (String × Nat)) {g g' : Grammar}, g.Unwraps D g' →
      Parser.Erases D (runWith rules k A g) (runWith rules' k A g') := by
  intro k
  induction k with
  | zero =>
    intro A g g' hg
    exact eval_erases hg (expandRule_erases hR fun _ _ _ _ _ => Run.Erases.refl _)
      fun name => runWith_bracketed rules 0 A (.ref name)
  | succ n ih =>
    intro A g g' hg
    exact eval_erases hg (expandRule_erases hR fun B _ _ hh => ih B hh)
      fun name => runWith_bracketed rules (n + 1) A (.ref name)

/-- A report with no event of a label in `D`, however the run ended. -/
def Trace.Avoids (D : String → Bool) (w : List Event) (_ : Option Stop) : Prop :=
  ∀ e ∈ w, D e.label = false

theorem avoids_law : ReportLaw (Trace.Avoids D) where
  nil := by simp [Trace.Avoids]
  diverges := by simp [Trace.Avoids]
  append hw hw' e he := by
    rcases List.mem_append.mp he with he | he
    · exact hw e he
    · exact hw' e he

/-- A labelled parser whose label is not in `D` adds only events of its own label. -/
theorem avoids_traced {label : String} (hl : D label = false) :
    TracedLaw (Trace.Avoids D) label := by
  intro c w x hw e he
  rcases List.mem_cons.mp he with rfl | he
  · exact hl
  · rcases List.mem_append.mp he with he | he
    · exact hw e he
    · rw [Event.label_of_mem_closing he]
      exact hl

theorem avoids_fault (f : Value → Except Fault Value) : FaultLaw (Trace.Avoids D) f := by
  intro _ _ _ e he
  cases he

/-- Wrappers are transparent. Deleting from a grammar and from its rules any `lazy` and
    `boxed` wrappers, and any labelled wrappers whose labels are in `D`, leaves the result of
    the run from every cursor as it was: no match, the same value and cursor, or the same
    stop. The trace of the new run is the old one with the events of the deleted labelled
    grammars erased: each one's attempt, and its closing event when its inner run gave a
    result. When no labelled grammar with a label in `D` is left, in the grammar or in the
    rules, the new trace is the old one with exactly the events of labels in `D` removed. -/
theorem run_unwrapped {rules rules' : Rules} (hR : Rules.Unwraps D rules rules')
    {g g' : Grammar} (hg : g.Unwraps D g') (c : Cursor Element) :
    (g'.run rules' c).result = (g.run rules c).result ∧
    Trace.Erases D (g.run rules c).result.isOk (g.run rules c).events (g'.run rules' c).events ∧
    ((∀ label ∈ g'.labels, D label = false) →
      (∀ name h, (name, h) ∈ rules' → ∀ label ∈ h.labels, D label = false) →
      (g'.run rules' c).events = (g.run rules c).events.filter fun e => !D e.label) := by
  -- both runs have the same depth, one expansion per rule and position
  have hdepth : depth rules' c = depth rules c := by
    simp only [depth, hR.length_eq]
  have hrun : (g.run rules c).Erases D (g'.run rules' c) := by
    show (runWith rules (depth rules c) [] g c).Erases D (runWith rules' (depth rules' c) [] g' c)
    rw [hdepth]
    exact runWith_erases hR _ [] hg c
  refine ⟨hrun.1, hrun.2, fun hl hrl => hrun.2.eq_filter ?_⟩
  -- the new run reports no event of a label in `D`
  exact runWith_reports avoids_law
    (fun _ _ hmem label hlabel => avoids_traced (hrl _ _ hmem label hlabel))
    (fun _ _ _ t _ => avoids_fault t.apply) _ [] g'
    (fun label hlabel => avoids_traced (hl label hlabel)) (fun t _ => avoids_fault t.apply) c

/-- A reference to `N`, boxed and labelled `x`, over the rule `N` labelled `x` around `any`:
    with every wrapper deleted, the run on `a` gives the same result and none of the four
    events, all of label `x`. -/
theorem run_unwrapped_rule :
    Rules.Unwraps (· == "x") [("N", .traced .any "x")] [("N", .any)] ∧
      Grammar.Unwraps (· == "x") (.traced (.boxed (.ref "N")) "x") (.ref "N") ∧
      (∀ label ∈ (Grammar.ref "N").labels, (label == "x") = false) ∧
      (∀ name h, (name, h) ∈ ([("N", .any)] : Rules) → ∀ label ∈ h.labels,
        (label == "x") = false) ∧
      ((Grammar.ref "N").run [("N", .any)] (Cursor.start #[Element.char 'a'])).result =
        ((Grammar.traced (.boxed (.ref "N")) "x").run [("N", .traced .any "x")]
          (Cursor.start #[Element.char 'a'])).result ∧
      ((Grammar.ref "N").run [("N", .any)] (Cursor.start #[Element.char 'a'])).events =
        ((Grammar.traced (.boxed (.ref "N")) "x").run [("N", .traced .any "x")]
          (Cursor.start #[Element.char 'a'])).events.filter fun e => !(e.label == "x") :=
  have hR : Rules.Unwraps (· == "x") [("N", .traced .any "x")] [("N", .any)] :=
    .cons ⟨rfl, .dropTraced rfl .any⟩ .nil
  have hg : Grammar.Unwraps (· == "x") (.traced (.boxed (.ref "N")) "x") (.ref "N") :=
    .dropTraced rfl (.dropBoxed (.ref "N"))
  have hl : ∀ label ∈ (Grammar.ref "N").labels, (label == "x") = false := by
    simp [labels]
  have hrl : ∀ name h, (name, h) ∈ ([("N", .any)] : Rules) → ∀ label ∈ h.labels,
      (label == "x") = false := by
    simp [labels]
  have hrun := run_unwrapped hR hg (Cursor.start #[Element.char 'a'])
  ⟨hR, hg, hl, hrl, hrun.1, hrun.2.2 hl hrl⟩

end Grammar

end Descent
