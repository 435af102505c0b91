import Descent.Proofs.Keep

/-! # What runs report

    A run reports its events and, if it stops, the stop. Several facts about runs are facts
    about that report alone: the events are well bracketed, every fault comes from a
    transformation, no event carries a given label. Each such fact is a law on reports
    (`ReportLaw`): it holds of the empty report of a result and of a divergence, and a report
    of a result followed by a report in the law is in the law. Every combinator then keeps
    the law, save at the two places where a parser adds to the report itself: a labelled
    parser opens its inner run's report with its attempt and closes it with its closing event
    (`TracedLaw`), and a transformation may stop the run with a fault (`FaultLaw`).

    `Grammar.runWith_reports` states the result for grammars: every run, at every depth and
    with any expansions under way, keeps a law that the labels and the transformations of the
    grammar and of the rules keep.
-/

namespace Descent

/-! ## Reports -/

/-- The stop a run's result records, if it is one. -/
def Run.stopOf {β : Type} : Except Stop β → Option Stop
  | .ok _ => none
  | .error s => some s

@[simp] theorem Run.stopOf_ok {β : Type} (b : β) : Run.stopOf (.ok b : Except Stop β) = none :=
  rfl

@[simp] theorem Run.stopOf_error {β : Type} (s : Stop) :
    Run.stopOf (.error s : Except Stop β) = some s := rfl

/-- The events with which a labelled parser started at `c` closes, once its inner run has
    the result `x`: a match with the elements consumed (none when the cursor moved back), no
    match, or nothing when the inner run stopped. -/
def Event.closing (label : String) (c : Cursor Element) : Except Stop Outcome → List Event
  | .ok (some (_, d)) => [.matched label c.position (d.position - c.position)]
  | .ok none => [.noMatch label c.position]
  | .error _ => []

/-- A law on reports: the empty report of a result and of a divergence keep it, and a report
    of a result followed by one that keeps it keeps it. -/
structure ReportLaw (P : List Event → Option Stop → Prop) : Prop where
  nil : P [] none
  diverges : P [] (some .diverges)
  append : ∀ {w w' : List Event} {o : Option Stop}, P w none → P w' o → P (w ++ w') o

/-- A labelled parser keeps the law `P`: its attempt, the report of its inner run and its
    closing event make a report in `P` whenever the inner report is. -/
def TracedLaw (P : List Event → Option Stop → Prop) (label : String) : Prop :=
  ∀ (c : Cursor Element) (w : List Event) (x : Except Stop Outcome), P w (Run.stopOf x) →
    P (.attempt label c.position :: (w ++ Event.closing label c x)) (Run.stopOf x)

/-- A transformation keeps the law `P`: each of its faults, with no events, is in `P`. -/
def FaultLaw (P : List Event → Option Stop → Prop) (f : Value → Except Fault Value) : Prop :=
  ∀ v e, f v = .error e → P [] (some (.fault e))

namespace Run

variable {β γ : Type} {P : List Event → Option Stop → Prop}

/-- The report of `r` keeps the law `P`. -/
def Reports (P : List Event → Option Stop → Prop) (r : Run β) : Prop :=
  P r.events (stopOf r.result)

theorem reports_pure (hP : ReportLaw P) (b : β) : (pure b : Run β).Reports P := hP.nil

theorem reports_diverges (hP : ReportLaw P) : (stop .diverges : Run β).Reports P := hP.diverges

/-- A run followed by another keeps a law when the first does, and the second does after
    every result of the first. -/
theorem Reports.bind (hP : ReportLaw P) {r : Run β} {f : β → Run γ} (h : r.Reports P)
    (hf : ∀ b, r.result = .ok b → (f b).Reports P) : (r >>= f).Reports P := by
  cases hr : r.result with
  | ok b =>
    have hfirst : P r.events none := by
      unfold Reports at h
      rwa [hr] at h
    rw [bind_of_ok hr]
    exact hP.append hfirst (hf b hr)
  | error s =>
    rw [bind_of_error hr]
    unfold Reports at h ⊢
    rwa [hr] at h

end Run

namespace Parser

/-- Every run of `p` keeps the law `P`. -/
def Reports (P : List Event → Option Stop → Prop) (p : Parser) : Prop :=
  ∀ c, (p c).Reports P

/-- A labelled parser's run: its attempt, its inner run's events, and its closing event;
    the result is its inner run's. -/
theorem traced_eq (p : Parser) (label : String) (c : Cursor Element) :
    traced p label c = ⟨.attempt label c.position ::
      ((p c).events ++ Event.closing label c (p c).result), (p c).result⟩ := by
  show Run.emit _ >>= (fun _ => p c >>= _) = _
  rw [Run.bind_of_ok (r := Run.emit _) rfl]
  cases h : (p c).result with
  | error s =>
    rw [Run.bind_of_error h]
    simp [Run.emit, Event.closing]
  | ok o =>
    rw [Run.bind_of_ok h]
    rcases o with _ | ⟨a, d⟩
    · simp [Run.emit, Event.closing, Run.bind_of_ok]
    · simp [Run.emit, Event.closing, Run.bind_of_ok]

section Reports

variable {P : List Event → Option Stop → Prop}

/-- A parser that reads and matches or not, reporting nothing. -/
theorem reports_of_pure (hP : ReportLaw P) {p : Parser} (h : ∀ c, ∃ o, p c = pure o) :
    Reports P p := by
  intro c
  obtain ⟨o, ho⟩ := h c
  rw [ho]
  exact Run.reports_pure hP o

/-- A one-element test steps only past a head that is there, so it reports nothing and never
    stops. -/
theorem satisfy_reports (hP : ReportLaw P) (ok : Element → Bool) : Reports P (satisfy ok) :=
  reports_of_pure hP fun c => ⟨_, satisfy_eq ok c⟩

/-- A literal steps only past a head that is its next character, so it reports nothing and
    never stops. -/
theorem literal_reports (hP : ReportLaw P) (s : String) : Reports P (literal s) :=
  reports_of_pure hP fun c => ⟨_, literal_eq s c⟩

theorem endOfInput_reports (hP : ReportLaw P) : Reports P endOfInput :=
  reports_of_pure hP fun _ => ⟨_, rfl⟩

theorem rewind_reports (hP : ReportLaw P) : Reports P rewind :=
  reports_of_pure hP fun _ => ⟨_, rfl⟩

theorem andThen_reports (hP : ReportLaw P) {p : Parser} {k : Value → Parser}
    (hp : Reports P p) (hk : ∀ a, Reports P (k a)) : Reports P (p.andThen k) := by
  intro c
  refine (hp c).bind hP fun o _ => ?_
  rcases o with _ | ⟨a, d⟩
  · exact Run.reports_pure hP _
  · exact hk a d

theorem seq_reports (hP : ReportLaw P) {p q : Parser} (hp : Reports P p) (hq : Reports P q) :
    Reports P (seq p q) :=
  andThen_reports hP hp fun _ => andThen_reports hP hq fun _ _ => Run.reports_pure hP _

theorem seqLeft_reports (hP : ReportLaw P) {p q : Parser} (hp : Reports P p)
    (hq : Reports P q) : Reports P (seqLeft p q) :=
  andThen_reports hP hp fun _ => andThen_reports hP hq fun _ _ => Run.reports_pure hP _

theorem seqRight_reports (hP : ReportLaw P) {p q : Parser} (hp : Reports P p)
    (hq : Reports P q) : Reports P (seqRight p q) :=
  andThen_reports hP hp fun _ => hq

theorem between_reports (hP : ReportLaw P) {l p r : Parser} (hl : Reports P l)
    (hp : Reports P p) (hr : Reports P r) : Reports P (between l p r) := by
  rw [between_eq_seqRight]
  exact seqRight_reports hP hl (seqLeft_reports hP hp hr)

theorem alt_reports (hP : ReportLaw P) {p q : Parser} (hp : Reports P p) (hq : Reports P q) :
    Reports P (alt p q) := by
  intro c
  refine (hp c).bind hP fun o _ => ?_
  rcases o with _ | ⟨a, d⟩
  · -- the second branch runs from the same cursor
    refine (hq c).bind hP fun o' _ => ?_
    rcases o' with _ | ⟨b, e⟩ <;> exact Run.reports_pure hP _
  · exact Run.reports_pure hP _

/-- The parsers that run their part once and then decide from its outcome, with a decision
    that keeps the law. -/
theorem bind_reports (hP : ReportLaw P) {p : Parser} (k : Cursor Element → Outcome → Run Outcome)
    (hk : ∀ c o, (k c o).Reports P) (hp : Reports P p) : Reports P (fun c => p c >>= k c) :=
  fun c => (hp c).bind hP fun o _ => hk c o

theorem optional_reports (hP : ReportLaw P) {p : Parser} (hp : Reports P p) :
    Reports P (optional p) := by
  refine bind_reports hP _ (fun _ o => ?_) hp
  rcases o with _ | ⟨a, d⟩ <;> exact Run.reports_pure hP _

theorem not_reports (hP : ReportLaw P) {p : Parser} (hp : Reports P p) : Reports P (not p) := by
  refine bind_reports hP _ (fun _ o => ?_) hp
  rcases o with _ | ⟨a, d⟩ <;> exact Run.reports_pure hP _

theorem filter_reports (hP : ReportLaw P) {p : Parser} (ok : Value → Bool) (hp : Reports P p) :
    Reports P (filter p ok) := by
  refine bind_reports hP _ (fun _ o => ?_) hp
  rcases o with _ | ⟨a, d⟩ <;> exact Run.reports_pure hP _

/-- A transformed parser keeps a law that the transformation's faults keep. -/
theorem map_reports (hP : ReportLaw P) {p : Parser} {f : Value → Except Fault Value}
    (hf : FaultLaw P f) (hp : Reports P p) : Reports P (map p f) := by
  refine bind_reports hP _ (fun _ o => ?_) hp
  rcases o with _ | ⟨a, d⟩
  · exact Run.reports_pure hP _
  · dsimp only
    cases hfa : f a with
    | ok b => exact Run.reports_pure hP _
    | error e => exact hf a e hfa

theorem traced_reports {p : Parser} {label : String} (hl : TracedLaw P label)
    (hp : Reports P p) : Reports P (traced p label) := by
  intro c
  rw [Run.Reports, traced_eq]
  exact hl c _ _ (hp c)

/-- The loop of a repetition keeps every law its body keeps. -/
theorem collect_reports (hP : ReportLaw P) {p : Parser} (hp : Reports P p) :
    ∀ fuel acc c, (collect p fuel acc c).Reports P := by
  intro fuel
  induction fuel with
  | zero =>
    intro acc c
    rw [collect]
    refine (hp c).bind hP fun o _ => ?_
    rcases o with _ | ⟨a, d⟩
    · exact Run.reports_pure hP _
    · dsimp only
      split <;> exact Run.reports_diverges hP
  | succ n ih =>
    intro acc c
    rw [collect]
    refine (hp c).bind hP fun o _ => ?_
    rcases o with _ | ⟨a, d⟩
    · exact Run.reports_pure hP _
    · dsimp only
      split
      · exact Run.reports_diverges hP
      · exact ih _ d

theorem many_reports (hP : ReportLaw P) {p : Parser} (hp : Reports P p) :
    Reports P (many p) :=
  fun c => (collect_reports hP hp _ _ c).bind hP fun _ _ => Run.reports_pure hP _

theorem many1_reports (hP : ReportLaw P) {p : Parser} (hp : Reports P p) :
    Reports P (many1 p) := by
  intro c
  refine (hp c).bind hP fun o _ => ?_
  rcases o with _ | ⟨a, d⟩
  · exact Run.reports_pure hP _
  · exact (collect_reports hP hp _ _ d).bind hP fun _ _ => Run.reports_pure hP _

/-- The loop of a separated list keeps every law its item and separator keep. -/
theorem collectSeparated_reports (hP : ReportLaw P) {item sep : Parser}
    (hitem : Reports P item) (hsep : Reports P sep) :
    ∀ fuel acc c, (collectSeparated item sep fuel acc c).Reports P := by
  intro fuel
  induction fuel with
  | zero =>
    intro acc c
    rw [collectSeparated]
    refine (hsep c).bind hP fun o _ => ?_
    rcases o with _ | ⟨a, d⟩
    · exact Run.reports_pure hP _
    · refine (hitem d).bind hP fun o' _ => ?_
      rcases o' with _ | ⟨b, e⟩
      · exact Run.reports_pure hP _
      · dsimp only
        split <;> exact Run.reports_diverges hP
  | succ n ih =>
    intro acc c
    rw [collectSeparated]
    refine (hsep c).bind hP fun o _ => ?_
    rcases o with _ | ⟨a, d⟩
    · exact Run.reports_pure hP _
    · refine (hitem d).bind hP fun o' _ => ?_
      rcases o' with _ | ⟨b, e⟩
      · exact Run.reports_pure hP _
      · dsimp only
        split
        · exact Run.reports_diverges hP
        · exact ih _ e

theorem sepBy_reports (hP : ReportLaw P) {item sep : Parser} (hitem : Reports P item)
    (hsep : Reports P sep) : Reports P (sepBy item sep) := by
  intro c
  refine (hitem c).bind hP fun o _ => ?_
  rcases o with _ | ⟨a, d⟩
  · exact Run.reports_pure hP _
  · exact (collectSeparated_reports hP hitem hsep _ _ d).bind hP fun _ _ =>
      Run.reports_pure hP _

end Reports

end Parser

/-! ## Grammars -/

namespace Grammar

/-- The labels of the labelled grammars in a grammar's own tree. -/
def labels : Grammar → List String
  | .traced p label => label :: p.labels
  | .seq p q | .seqLeft p q | .seqRight p q | .alt p q | .sepBy p q => p.labels ++ q.labels
  | .many p | .many1 p | .optional p | .not p | .map p _ | .filter p _ | .lazy p | .boxed p =>
    p.labels
  | .between l p r => l.labels ++ p.labels ++ r.labels
  | .any | .endOfInput | .rewind | .accept _ | .satisfy _ | .literal _ | .ref _ => []

/-- The transformations of the mapping grammars in a grammar's own tree. -/
def transforms : Grammar → List Transform
  | .map p t => t :: p.transforms
  | .seq p q | .seqLeft p q | .seqRight p q | .alt p q | .sepBy p q =>
    p.transforms ++ q.transforms
  | .many p | .many1 p | .optional p | .not p | .filter p _ | .traced p _ | .lazy p
  | .boxed p => p.transforms
  | .between l p r => l.transforms ++ p.transforms ++ r.transforms
  | .any | .endOfInput | .rewind | .accept _ | .satisfy _ | .literal _ | .ref _ => []

variable {P : List Event → Option Stop → Prop}

/-- A grammar keeps a law when its references, its labels and its transformations do. -/
theorem eval_reports (hP : ReportLaw P) {E : String → Parser} {g : Grammar}
    (hE : ∀ name ∈ g.refs, Parser.Reports P (E name))
    (hl : ∀ label ∈ g.labels, TracedLaw P label)
    (ht : ∀ t ∈ g.transforms, FaultLaw P t.apply) : Parser.Reports P (g.eval E) := by
  induction g with
  | any | accept _ | satisfy _ => exact Parser.satisfy_reports hP _
  | endOfInput => exact Parser.endOfInput_reports hP
  | rewind => exact Parser.rewind_reports hP
  | literal s => exact Parser.literal_reports hP s
  | ref name => exact hE name (by simp [refs])
  | seq p q ihp ihq =>
    simp only [refs, labels, transforms, List.mem_append] at hE hl ht
    exact Parser.seq_reports hP (ihp (fun n h => hE n (.inl h)) (fun l h => hl l (.inl h))
      fun t h => ht t (.inl h)) (ihq (fun n h => hE n (.inr h)) (fun l h => hl l (.inr h))
      fun t h => ht t (.inr h))
  | seqLeft p q ihp ihq =>
    simp only [refs, labels, transforms, List.mem_append] at hE hl ht
    exact Parser.seqLeft_reports hP (ihp (fun n h => hE n (.inl h)) (fun l h => hl l (.inl h))
      fun t h => ht t (.inl h)) (ihq (fun n h => hE n (.inr h)) (fun l h => hl l (.inr h))
      fun t h => ht t (.inr h))
  | seqRight p q ihp ihq =>
    simp only [refs, labels, transforms, List.mem_append] at hE hl ht
    exact Parser.seqRight_reports hP (ihp (fun n h => hE n (.inl h)) (fun l h => hl l (.inl h))
      fun t h => ht t (.inl h)) (ihq (fun n h => hE n (.inr h)) (fun l h => hl l (.inr h))
      fun t h => ht t (.inr h))
  | alt p q ihp ihq =>
    simp only [refs, labels, transforms, List.mem_append] at hE hl ht
    exact Parser.alt_reports hP (ihp (fun n h => hE n (.inl h)) (fun l h => hl l (.inl h))
      fun t h => ht t (.inl h)) (ihq (fun n h => hE n (.inr h)) (fun l h => hl l (.inr h))
      fun t h => ht t (.inr h))
  | sepBy item sep ihi ihs =>
    simp only [refs, labels, transforms, List.mem_append] at hE hl ht
    exact Parser.sepBy_reports hP (ihi (fun n h => hE n (.inl h)) (fun l h => hl l (.inl h))
      fun t h => ht t (.inl h)) (ihs (fun n h => hE n (.inr h)) (fun l h => hl l (.inr h))
      fun t h => ht t (.inr h))
  | between l p r ihl ihp ihr =>
    simp only [refs, labels, transforms, List.mem_append] at hE hl ht
    exact Parser.between_reports hP
      (ihl (fun n h => hE n (.inl (.inl h))) (fun l h => hl l (.inl (.inl h)))
        fun t h => ht t (.inl (.inl h)))
      (ihp (fun n h => hE n (.inl (.inr h))) (fun l h => hl l (.inl (.inr h)))
        fun t h => ht t (.inl (.inr h)))
      (ihr (fun n h => hE n (.inr h)) (fun l h => hl l (.inr h)) fun t h => ht t (.inr h))
  | many p ih => exact Parser.many_reports hP (ih hE hl ht)
  | many1 p ih => exact Parser.many1_reports hP (ih hE hl ht)
  | optional p ih => exact Parser.optional_reports hP (ih hE hl ht)
  | not p ih => exact Parser.not_reports hP (ih hE hl ht)
  | filter p q ih => exact Parser.filter_reports hP _ (ih hE hl ht)
  | map p t ih =>
    simp only [refs, transforms, List.mem_cons] at hE ht
    exact Parser.map_reports hP (ht t (.inl rfl)) (ih hE hl fun t' h => ht t' (.inr h))
  | traced p label ih =>
    simp only [refs, labels, List.mem_cons] at hE hl
    exact Parser.traced_reports (hl label (.inl rfl)) (ih hE (fun l h => hl l (.inr h)) ht)
  | lazy p ih | boxed p ih => exact ih hE hl ht

/-- A reference keeps a law when the grammar of its rule, however it is parsed, does. -/
theorem expandRule_reports (hP : ReportLaw P) {rules : Rules} {A : List (String × Nat)}
    {next : List (String × Nat) → Grammar → Parser} {name : String}
    (hnext : ∀ h, rules.lookup name = some h → ∀ B, Parser.Reports P (next B h)) :
    Parser.Reports P (expandRule rules A next name) := by
  intro c
  simp only [expandRule]
  cases hh : rules.lookup name with
  | none => exact Run.reports_pure hP _
  | some h =>
    dsimp only
    split
    · exact Run.reports_diverges hP
    · exact hnext h hh _ c

/-- A rule that a name looks up is one of the rules. -/
theorem mem_of_lookup {rules : Rules} {name : String} {h : Grammar}
    (hh : rules.lookup name = some h) : (name, h) ∈ rules := by
  obtain ⟨l₁, l₂, rfl, -⟩ := List.lookup_eq_some_iff.mp hh
  simp

/-- Every run of a grammar keeps a law that the labels and the transformations of the
    grammar and of every rule keep, at every depth and with any expansions under way. -/
theorem runWith_reports (hP : ReportLaw P) {rules : Rules}
    (hrl : ∀ name h, (name, h) ∈ rules → ∀ label ∈ h.labels, TracedLaw P label)
    (hrt : ∀ name h, (name, h) ∈ rules → ∀ t ∈ h.transforms, FaultLaw P t.apply) :
    ∀ (k : Nat) (A : List (String × Nat)) (g : Grammar),
      (∀ label ∈ g.labels, TracedLaw P label) → (∀ t ∈ g.transforms, FaultLaw P t.apply) →
        Parser.Reports P (runWith rules k A g) := by
  intro k
  induction k with
  | zero =>
    intro A g hl ht
    refine eval_reports hP (fun name _ => expandRule_reports hP fun _ _ _ => ?_) hl ht
    exact fun _ => Run.reports_diverges hP
  | succ n ih =>
    intro A g hl ht
    refine eval_reports hP (fun name _ => expandRule_reports hP fun h hh B => ?_) hl ht
    -- the rule's grammar is one of the rules, whose labels and transformations keep the law
    exact ih B h (hrl name h (mem_of_lookup hh)) (hrt name h (mem_of_lookup hh))

end Grammar

end Descent
