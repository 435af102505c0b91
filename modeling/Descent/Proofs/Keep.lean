import Descent.Grammar.Run

/-! # What a match leaves behind

    A parser that matches from a cursor `c` leaves a cursor `d`. Many facts about parsers
    are facts about the pair `(c, d)`: the source is the same, or the position did not
    move back. Each of these relations holds from a cursor to itself and to the cursor past
    its head, and it composes; `StepOrder` collects the three facts, and
    `Parser.Keeps R p` says that every match of `p` relates its two cursors by `R`.

    Every combinator keeps such a relation when its parts do. `rewind` is the one parser
    that needs more: its cursor starts the source again. Hence a grammar keeps `R` when the
    rules it refers to do (`Grammar.eval_keeps`), and so do the runs with rules expanded
    (`Grammar.runWith_keeps`). The two uses are the source (`Cursor.SameSource`), kept
    by every run, and the forward order (`Cursor.Forward`), kept by runs without `rewind`.
-/

namespace Descent

/-! ## Reading runs -/

namespace Run

variable {β γ : Type}

/-- A run followed by another has the second one's result, once the first has one. -/
theorem bind_result (r : Run β) (f : β → Run γ) :
    (r >>= f).result = r.result.bind fun b => (f b).result := by
  show (Run.bind r f).result = _
  unfold Run.bind
  split <;> rename_i h <;> simp [h, Except.bind]

theorem bind_eq_ok {r : Run β} {f : β → Run γ} {x : γ} :
    (r >>= f).result = .ok x ↔ ∃ b, r.result = .ok b ∧ (f b).result = .ok x := by
  rw [bind_result]
  cases r.result with
  | error e => simp [Except.bind]
  | ok b => simp [Except.bind]

end Run

/-! ## Relations kept by steps -/

/-- A relation between cursors that holds from a cursor to itself and to the cursor past
    its head, and that composes. -/
structure StepOrder (R : Cursor Element → Cursor Element → Prop) : Prop where
  refl : ∀ c, R c c
  trans : ∀ {c d e}, R c d → R d e → R c e
  next : ∀ {c d a}, c.next? = some (a, d) → R c d

namespace Cursor

/-- `d` is on the same source as `c`. -/
def SameSource (c d : Cursor Element) : Prop := d.source = c.source

/-- `d` is on the same source as `c`, at or after its position. -/
def Forward (c d : Cursor Element) : Prop := d.source = c.source ∧ c.position ≤ d.position

theorem sameSource_stepOrder : StepOrder SameSource where
  refl _ := rfl
  trans hcd hde := hde.trans hcd
  next h := (next?_eq_some h).1

theorem forward_stepOrder : StepOrder Forward where
  refl _ := ⟨rfl, Nat.le_refl _⟩
  trans hcd hde := ⟨hde.1.trans hcd.1, Nat.le_trans hcd.2 hde.2⟩
  next h := by
    obtain ⟨hs, hp⟩ := next?_eq_some h
    exact ⟨hs, by omega⟩

/-- Starting again keeps the source. -/
theorem restart_sameSource (c : Cursor Element) : SameSource c c.restart := rfl

end Cursor

namespace Parser

/-- Every match of `p` from a cursor `c` leaves a cursor related to `c` by `R`. -/
def Keeps (R : Cursor Element → Cursor Element → Prop) (p : Parser) : Prop :=
  ∀ c v d, (p c).result = .ok (some (v, d)) → R c d

section Keeps

variable {R : Cursor Element → Cursor Element → Prop}

theorem satisfy_keeps (hR : StepOrder R) (ok : Element → Bool) : Keeps R (satisfy ok) := by
  intro c v d h
  rw [satisfy_eq] at h
  simp only [headMatch, Run.pure_result, Except.ok.injEq] at h
  split at h
  · rename_i e d' hn
    split at h
    · cases h
      exact hR.next hn
    · cases h
  · cases h

theorem skipChars_keeps (hR : StepOrder R) {cs : List Char} {c d : Cursor Element}
    (h : skipChars cs c = some d) : R c d := by
  induction cs generalizing c with
  | nil =>
    simp only [skipChars, Option.some.injEq] at h
    subst h
    exact hR.refl c
  | cons ch chs ih =>
    simp only [skipChars] at h
    split at h
    · rename_i e d' hn
      split at h
      · exact hR.trans (hR.next hn) (ih h)
      · cases h
    · cases h

theorem literal_keeps (hR : StepOrder R) (s : String) : Keeps R (literal s) := by
  intro c v d h
  rw [literal_eq] at h
  simp only [Run.pure_result, Except.ok.injEq, Option.map_eq_some_iff] at h
  obtain ⟨d', hd', he⟩ := h
  cases he
  exact skipChars_keeps hR hd'

theorem endOfInput_keeps (hR : StepOrder R) : Keeps R endOfInput := by
  intro c v d h
  simp only [endOfInput, Run.pure_result, Except.ok.injEq] at h
  split at h
  · cases h
    exact hR.refl c
  · cases h

theorem yield_keeps (hR : StepOrder R) (v : Value) : Keeps R (yield v) := by
  intro c w d h
  cases h
  exact hR.refl c

theorem andThen_keeps (hR : StepOrder R) {p : Parser} {k : Value → Parser} (hp : Keeps R p)
    (hk : ∀ a, Keeps R (k a)) : Keeps R (p.andThen k) := by
  intro c v d h
  obtain ⟨o, hpc, hko⟩ := Run.bind_eq_ok.mp h
  rcases o with _ | ⟨a, e⟩
  · cases hko
  · exact hR.trans (hp c a e hpc) (hk a e v d hko)

theorem seq_keeps (hR : StepOrder R) {p q : Parser} (hp : Keeps R p) (hq : Keeps R q) :
    Keeps R (seq p q) :=
  andThen_keeps hR hp fun _ => andThen_keeps hR hq fun _ => yield_keeps hR _

theorem seqLeft_keeps (hR : StepOrder R) {p q : Parser} (hp : Keeps R p) (hq : Keeps R q) :
    Keeps R (seqLeft p q) :=
  andThen_keeps hR hp fun _ => andThen_keeps hR hq fun _ => yield_keeps hR _

theorem seqRight_keeps (hR : StepOrder R) {p q : Parser} (hp : Keeps R p) (hq : Keeps R q) :
    Keeps R (seqRight p q) :=
  andThen_keeps hR hp fun _ => hq

theorem between_keeps (hR : StepOrder R) {l p r : Parser} (hl : Keeps R l) (hp : Keeps R p)
    (hr : Keeps R r) : Keeps R (between l p r) := by
  rw [between_eq_seqLeft]
  exact seqLeft_keeps hR (seqRight_keeps hR hl hp) hr

theorem alt_keeps {p q : Parser} (hp : Keeps R p) (hq : Keeps R q) : Keeps R (alt p q) := by
  intro c v d h
  obtain ⟨o, hpc, h⟩ := Run.bind_eq_ok.mp h
  rcases o with _ | ⟨a, e⟩
  · obtain ⟨o', hqc, h⟩ := Run.bind_eq_ok.mp h
    rcases o' with _ | ⟨b, e'⟩
    · cases h
    · cases h
      exact hq c b d hqc
  · cases h
    exact hp c a d hpc

theorem optional_keeps (hR : StepOrder R) {p : Parser} (hp : Keeps R p) :
    Keeps R (optional p) := by
  intro c v d h
  obtain ⟨o, hpc, h⟩ := Run.bind_eq_ok.mp h
  rcases o with _ | ⟨a, e⟩
  · cases h
    exact hR.refl c
  · cases h
    exact hp c a d hpc

theorem not_keeps (hR : StepOrder R) (p : Parser) : Keeps R (not p) := by
  intro c v d h
  obtain ⟨o, -, h⟩ := Run.bind_eq_ok.mp h
  rcases o with _ | ⟨a, e⟩
  · cases h
    exact hR.refl c
  · cases h

theorem map_keeps {p : Parser} (f : Value → Except Fault Value) (hp : Keeps R p) :
    Keeps R (map p f) := by
  intro c v d h
  obtain ⟨o, hpc, h⟩ := Run.bind_eq_ok.mp h
  rcases o with _ | ⟨a, e⟩
  · cases h
  · -- a fault of `f` stops the run, so only a transformed value gets here
    dsimp only at h
    split at h
    · cases h
      exact hp c a d hpc
    · cases h

theorem filter_keeps {p : Parser} (ok : Value → Bool) (hp : Keeps R p) :
    Keeps R (filter p ok) := by
  intro c v d h
  obtain ⟨o, hpc, h⟩ := Run.bind_eq_ok.mp h
  rcases o with _ | ⟨a, e⟩
  · cases h
  · dsimp only at h
    split at h
    · cases h
      exact hp c _ _ hpc
    · cases h

theorem traced_keeps {p : Parser} (label : String) (hp : Keeps R p) :
    Keeps R (traced p label) := by
  intro c v d h
  obtain ⟨-, -, h⟩ := Run.bind_eq_ok.mp h
  obtain ⟨o, hpc, h⟩ := Run.bind_eq_ok.mp h
  rcases o with _ | ⟨a, e⟩
  · obtain ⟨-, -, h⟩ := Run.bind_eq_ok.mp h
    cases h
  · obtain ⟨-, -, h⟩ := Run.bind_eq_ok.mp h
    cases h
    exact hp c _ _ hpc

/-- The loop of a repetition ends at a cursor related to where it started. -/
theorem collect_keeps (hR : StepOrder R) {p : Parser} (hp : Keeps R p) :
    ∀ fuel acc c vs d, (collect p fuel acc c).result = .ok (vs, d) → R c d := by
  intro fuel
  induction fuel with
  | zero =>
    intro acc c vs d h
    rw [collect] at h
    obtain ⟨o, -, h⟩ := Run.bind_eq_ok.mp h
    rcases o with _ | ⟨a, e⟩
    · cases h
      exact hR.refl c
    · dsimp only at h
      split at h <;> cases h
  | succ n ih =>
    intro acc c vs d h
    rw [collect] at h
    obtain ⟨o, hpc, h⟩ := Run.bind_eq_ok.mp h
    rcases o with _ | ⟨a, e⟩
    · cases h
      exact hR.refl c
    · dsimp only at h
      split at h
      · cases h
      · exact hR.trans (hp c a e hpc) (ih _ e vs d h)

theorem many_keeps (hR : StepOrder R) {p : Parser} (hp : Keeps R p) : Keeps R (many p) := by
  intro c v d h
  obtain ⟨⟨vs, e⟩, hcol, h⟩ := Run.bind_eq_ok.mp h
  cases h
  exact collect_keeps hR hp _ _ c vs _ hcol

theorem many1_keeps (hR : StepOrder R) {p : Parser} (hp : Keeps R p) : Keeps R (many1 p) := by
  intro c v d h
  obtain ⟨o, hpc, h⟩ := Run.bind_eq_ok.mp h
  rcases o with _ | ⟨a, e⟩
  · cases h
  · obtain ⟨⟨vs, e'⟩, hcol, h⟩ := Run.bind_eq_ok.mp h
    cases h
    exact hR.trans (hp c a e hpc) (collect_keeps hR hp _ _ e vs _ hcol)

/-- The loop of a separated list ends at a cursor related to where it started. -/
theorem collectSeparated_keeps (hR : StepOrder R) {item sep : Parser} (hitem : Keeps R item)
    (hsep : Keeps R sep) :
    ∀ fuel acc c vs d, (collectSeparated item sep fuel acc c).result = .ok (vs, d) → R c d := by
  intro fuel
  induction fuel with
  | zero =>
    intro acc c vs d h
    rw [collectSeparated] at h
    obtain ⟨o, -, h⟩ := Run.bind_eq_ok.mp h
    rcases o with _ | ⟨a, e⟩
    · cases h
      exact hR.refl c
    · obtain ⟨o', -, h⟩ := Run.bind_eq_ok.mp h
      rcases o' with _ | ⟨b, e'⟩
      · cases h
        exact hR.refl c
      · dsimp only at h
        split at h <;> cases h
  | succ n ih =>
    intro acc c vs d h
    rw [collectSeparated] at h
    obtain ⟨o, hsc, h⟩ := Run.bind_eq_ok.mp h
    rcases o with _ | ⟨a, e⟩
    · cases h
      exact hR.refl c
    · obtain ⟨o', hie, h⟩ := Run.bind_eq_ok.mp h
      rcases o' with _ | ⟨b, e'⟩
      · cases h
        exact hR.refl c
      · dsimp only at h
        split at h
        · cases h
        · exact hR.trans (hR.trans (hsep c a e hsc) (hitem e b e' hie)) (ih _ e' vs d h)

theorem sepBy_keeps (hR : StepOrder R) {item sep : Parser} (hitem : Keeps R item)
    (hsep : Keeps R sep) : Keeps R (sepBy item sep) := by
  intro c v d h
  obtain ⟨o, hic, h⟩ := Run.bind_eq_ok.mp h
  rcases o with _ | ⟨a, e⟩
  · cases h
  · obtain ⟨⟨vs, e'⟩, hcol, h⟩ := Run.bind_eq_ok.mp h
    cases h
    exact hR.trans (hitem c a e hic) (collectSeparated_keeps hR hitem hsep _ _ e vs _ hcol)

end Keeps

end Parser

/-! ## Grammars -/

namespace Grammar

/-- The names of the rules a grammar refers to in its own tree. -/
def refs : Grammar → List String
  | .ref name => [name]
  | .seq p q | .seqLeft p q | .seqRight p q | .alt p q | .sepBy p q => p.refs ++ q.refs
  | .many p | .many1 p | .optional p | .not p | .map p _ | .filter p _ | .traced p _
  | .lazy p | .boxed p => p.refs
  | .between l p r => l.refs ++ p.refs ++ r.refs
  | .any | .endOfInput | .rewind | .accept _ | .satisfy _ | .literal _ => []

/-- Whether `rewind` stands in a grammar's own tree. -/
def hasRewind : Grammar → Bool
  | .rewind => true
  | .seq p q | .seqLeft p q | .seqRight p q | .alt p q | .sepBy p q =>
    p.hasRewind || q.hasRewind
  | .many p | .many1 p | .optional p | .not p | .map p _ | .filter p _ | .traced p _
  | .lazy p | .boxed p => p.hasRewind
  | .between l p r => l.hasRewind || p.hasRewind || r.hasRewind
  | .any | .endOfInput | .ref _ | .accept _ | .satisfy _ | .literal _ => false

variable {R : Cursor Element → Cursor Element → Prop}

/-- A grammar keeps `R` when the rules it refers to do, and, if it holds `rewind`, when `R`
    relates every cursor to the start of its source. -/
theorem eval_keeps (hR : StepOrder R) {E : String → Parser} {g : Grammar}
    (hE : ∀ name ∈ g.refs, Parser.Keeps R (E name))
    (hrw : g.hasRewind = true → ∀ c, R c c.restart) : Parser.Keeps R (g.eval E) := by
  induction g with
  | any | accept _ | satisfy _ => exact Parser.satisfy_keeps hR _
  | endOfInput => exact Parser.endOfInput_keeps hR
  | rewind =>
    intro c v d h
    cases h
    exact hrw rfl c
  | literal s => exact Parser.literal_keeps hR s
  | ref name => exact hE name (by simp [refs])
  | seq p q ihp ihq =>
    simp only [refs, List.mem_append, hasRewind, Bool.or_eq_true] at hE hrw
    exact Parser.seq_keeps hR (ihp (fun n hn => hE n (.inl hn)) (hrw ∘ .inl))
      (ihq (fun n hn => hE n (.inr hn)) (hrw ∘ .inr))
  | seqLeft p q ihp ihq =>
    simp only [refs, List.mem_append, hasRewind, Bool.or_eq_true] at hE hrw
    exact Parser.seqLeft_keeps hR (ihp (fun n hn => hE n (.inl hn)) (hrw ∘ .inl))
      (ihq (fun n hn => hE n (.inr hn)) (hrw ∘ .inr))
  | seqRight p q ihp ihq =>
    simp only [refs, List.mem_append, hasRewind, Bool.or_eq_true] at hE hrw
    exact Parser.seqRight_keeps hR (ihp (fun n hn => hE n (.inl hn)) (hrw ∘ .inl))
      (ihq (fun n hn => hE n (.inr hn)) (hrw ∘ .inr))
  | alt p q ihp ihq =>
    simp only [refs, List.mem_append, hasRewind, Bool.or_eq_true] at hE hrw
    exact Parser.alt_keeps (ihp (fun n hn => hE n (.inl hn)) (hrw ∘ .inl))
      (ihq (fun n hn => hE n (.inr hn)) (hrw ∘ .inr))
  | sepBy item sep ihi ihs =>
    simp only [refs, List.mem_append, hasRewind, Bool.or_eq_true] at hE hrw
    exact Parser.sepBy_keeps hR (ihi (fun n hn => hE n (.inl hn)) (hrw ∘ .inl))
      (ihs (fun n hn => hE n (.inr hn)) (hrw ∘ .inr))
  | between l p r ihl ihp ihr =>
    simp only [refs, List.mem_append, hasRewind, Bool.or_eq_true] at hE hrw
    exact Parser.between_keeps hR
      (ihl (fun n hn => hE n (.inl (.inl hn))) (fun h => hrw (.inl (.inl h))))
      (ihp (fun n hn => hE n (.inl (.inr hn))) (fun h => hrw (.inl (.inr h))))
      (ihr (fun n hn => hE n (.inr hn)) (fun h => hrw (.inr h)))
  | many p ih => exact Parser.many_keeps hR (ih hE hrw)
  | many1 p ih => exact Parser.many1_keeps hR (ih hE hrw)
  | optional p ih => exact Parser.optional_keeps hR (ih hE hrw)
  | not p _ => exact Parser.not_keeps hR _
  | map p f ih => exact Parser.map_keeps _ (ih hE hrw)
  | filter p q ih => exact Parser.filter_keeps _ (ih hE hrw)
  | traced p label ih => exact Parser.traced_keeps label (ih hE hrw)
  | lazy p ih | boxed p ih => exact ih hE hrw

/-- A reference keeps `R` when the grammar of its rule does, however it is parsed. -/
theorem expandRule_keeps {rules : Rules} {active : List (String × Nat)}
    {next : List (String × Nat) → Grammar → Parser} {name : String}
    (hnext : ∀ h, rules.lookup name = some h → ∀ active', Parser.Keeps R (next active' h)) :
    Parser.Keeps R (expandRule rules active next name) := by
  intro c v d h
  simp only [expandRule] at h
  split at h
  · cases h
  · rename_i body hbody
    split at h
    · cases h
    · exact hnext body hbody _ c v d h

/-- Every run keeps a relation that holds from each cursor to the start of its source. -/
theorem runWith_keeps (hR : StepOrder R) (hrw : ∀ c, R c c.restart) (rules : Rules) :
    ∀ fuel active g, Parser.Keeps R (runWith rules fuel active g) := by
  intro fuel
  induction fuel with
  | zero =>
    intro active g
    refine eval_keeps hR (fun name _ => expandRule_keeps ?_) (fun _ => hrw)
    intro h _ active' c v d hd
    cases hd
  | succ n ih =>
    intro active g
    exact eval_keeps hR (fun name _ => expandRule_keeps fun h _ active' => ih active' h)
      (fun _ => hrw)

/-- A match of a grammar leaves a cursor on the source it started from. -/
theorem run_sameSource (rules : Rules) (g : Grammar) :
    Parser.Keeps Cursor.SameSource (g.run rules) :=
  fun c => runWith_keeps Cursor.sameSource_stepOrder Cursor.restart_sameSource rules _ [] g c

end Grammar

end Descent
