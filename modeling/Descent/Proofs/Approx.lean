import Descent.Proofs.Keep
import Mathlib.Data.Finset.Prod
import Mathlib.Order.Interval.Finset.Nat

/-! # Depth and approximation

    A run that stops as diverging has reported a beginning of the events of any run that goes
    further: `Run.Approx r r'` says that `r` is `r'`, or that `r` diverged after a prefix of
    the events of `r'`. Runs of a grammar with less depth, or with more expansions already
    under way, approximate runs with more depth and fewer expansions (`Grammar.runWith_mono`):
    they stop sooner, and otherwise agree.

    The converse holds past a bound. The expansions under way are distinct pairs of a rule
    and a position in the source, so there are at most `r * (n + 1)` of them for `r` rules
    and `n` elements; a run whose depth and expansions add up to that bound never runs out
    of depth (`Grammar.runWith_succ_approxOn`). Hence a run of `g` with any depth from the
    bound on is the run of `g` (`Grammar.run_eq_runWith`), and every run with less depth
    approximates it (`Grammar.runWith_approx_run`).
-/

namespace Descent

/-! ## Approximating runs -/

namespace Run

variable {β γ : Type}

/-- `r` is `r'`, or `r` stopped as diverging after a beginning of the events of `r'`. -/
def Approx (r r' : Run β) : Prop :=
  r = r' ∨ (r.result = .error .diverges ∧ r.events <+: r'.events)

theorem Approx.refl (r : Run β) : r.Approx r := .inl rfl

theorem Approx.trans {r r' r'' : Run β} (h : r.Approx r') (h' : r'.Approx r'') : r.Approx r'' := by
  rcases h with rfl | ⟨hd, hp⟩
  · exact h'
  · rcases h' with rfl | ⟨-, hp'⟩
    · exact .inr ⟨hd, hp⟩
    · exact .inr ⟨hd, hp.trans hp'⟩

theorem Approx.antisymm {r r' : Run β} (h : r.Approx r') (h' : r'.Approx r) : r = r' := by
  rcases h with rfl | ⟨hd, hp⟩
  · rfl
  rcases h' with h' | ⟨hd', hp'⟩
  · exact h'.symm
  · obtain ⟨events, result⟩ := r
    obtain ⟨events', result'⟩ := r'
    simp only at hd hd' hp hp'
    subst hd hd'
    rw [hp.eq_of_length (Nat.le_antisymm hp.length_le hp'.length_le)]

/-- A run that ends approximates only itself. -/
theorem Approx.eq_of_ne {r r' : Run β} (h : r.Approx r') (hr : r.result ≠ .error .diverges) :
    r = r' := by
  rcases h with h | ⟨hd, -⟩
  · exact h
  · exact absurd hd hr

theorem stop_diverges_approx (r : Run β) : (stop .diverges : Run β).Approx r :=
  .inr ⟨rfl, List.nil_prefix⟩

/-- The events of a run begin the events of every run that follows it. -/
theorem events_prefix_bind (r : Run β) (f : β → Run γ) : r.events <+: (r >>= f).events := by
  cases hr : r.result with
  | ok b => rw [bind_of_ok hr]; exact List.prefix_append _ _
  | error e => rw [bind_of_error hr]

/-- Approximation passes through a run that follows: the second runs need only approximate
    each other after a result of the first. -/
theorem bind_approx {r r' : Run β} {f f' : β → Run γ} (h : r.Approx r')
    (hf : ∀ b, r.result = .ok b → (f b).Approx (f' b)) : (r >>= f).Approx (r' >>= f') := by
  rcases h with rfl | ⟨hd, hp⟩
  · cases hr : r.result with
    | error e =>
      rw [bind_of_error hr, bind_of_error hr]
      exact .refl _
    | ok b =>
      rw [bind_of_ok hr, bind_of_ok hr]
      rcases hf b hr with heq | ⟨hd', hp'⟩
      · rw [heq]
        exact .refl _
      · exact .inr ⟨hd', (List.prefix_append_right_inj _).mpr hp'⟩
  · rw [bind_of_error hd]
    exact .inr ⟨rfl, hp.trans (events_prefix_bind r' f')⟩

end Run

/-! ## Approximating parsers -/

namespace Parser

open Cursor (SameSource)

/-- From every cursor on `s`, a run of `p` approximates the run of `q`. -/
def ApproxOn (s : Array Element) (p q : Parser) : Prop :=
  ∀ c : Cursor Element, c.source = s → (p c).Approx (q c)

variable {s : Array Element}

theorem ApproxOn.refl (p : Parser) : ApproxOn s p p := fun c _ => .refl (p c)

theorem ApproxOn.antisymm {p q : Parser} (h : ApproxOn s p q) (h' : ApproxOn s q p)
    {c : Cursor Element} (hc : c.source = s) : p c = q c :=
  (h c hc).antisymm (h' c hc)

/-- The continuation runs from the cursor `p` leaves, which is on `s` again. -/
theorem andThen_approxOn {p p' : Parser} {k k' : Value → Parser} (hp : ApproxOn s p p')
    (hps : Keeps SameSource p) (hk : ∀ a, ApproxOn s (k a) (k' a)) :
    ApproxOn s (p.andThen k) (p'.andThen k') := by
  intro c hc
  refine Run.bind_approx (hp c hc) fun o ho => ?_
  rcases o with _ | ⟨a, d⟩
  · exact .refl _
  · exact hk a d ((hps c a d ho).trans hc)

theorem seq_approxOn {p p' q q' : Parser} (hp : ApproxOn s p p') (hps : Keeps SameSource p)
    (hq : ApproxOn s q q') (hqs : Keeps SameSource q) : ApproxOn s (seq p q) (seq p' q') :=
  andThen_approxOn hp hps fun _ => andThen_approxOn hq hqs fun _ => .refl _

theorem seqLeft_approxOn {p p' q q' : Parser} (hp : ApproxOn s p p') (hps : Keeps SameSource p)
    (hq : ApproxOn s q q') (hqs : Keeps SameSource q) :
    ApproxOn s (seqLeft p q) (seqLeft p' q') :=
  andThen_approxOn hp hps fun _ => andThen_approxOn hq hqs fun _ => .refl _

theorem seqRight_approxOn {p p' q q' : Parser} (hp : ApproxOn s p p')
    (hps : Keeps SameSource p) (hq : ApproxOn s q q') :
    ApproxOn s (seqRight p q) (seqRight p' q') :=
  andThen_approxOn hp hps fun _ => hq

theorem between_approxOn {l l' p p' r r' : Parser} (hl : ApproxOn s l l')
    (hls : Keeps SameSource l) (hp : ApproxOn s p p') (hps : Keeps SameSource p)
    (hr : ApproxOn s r r') (hrs : Keeps SameSource r) :
    ApproxOn s (between l p r) (between l' p' r') := by
  rw [between_eq_seqRight, between_eq_seqRight]
  exact seqRight_approxOn hl hls (seqLeft_approxOn hp hps hr hrs)

theorem alt_approxOn {p p' q q' : Parser} (hp : ApproxOn s p p') (hq : ApproxOn s q q') :
    ApproxOn s (alt p q) (alt p' q') := by
  intro c hc
  refine Run.bind_approx (hp c hc) fun o _ => ?_
  rcases o with _ | ⟨a, d⟩
  · -- the second branch starts from the same cursor
    refine Run.bind_approx (hq c hc) fun o' _ => ?_
    rcases o' with _ | ⟨b, e⟩ <;> exact .refl _
  · exact .refl _

/-- The parsers that run their part once and then decide from its outcome alone. -/
theorem bind_approxOn {p p' : Parser} (k : Cursor Element → Outcome → Run Outcome)
    (hp : ApproxOn s p p') : ApproxOn s (fun c => p c >>= k c) (fun c => p' c >>= k c) :=
  fun c hc => Run.bind_approx (hp c hc) fun _ _ => .refl _

theorem optional_approxOn {p p' : Parser} (hp : ApproxOn s p p') :
    ApproxOn s (optional p) (optional p') :=
  bind_approxOn _ hp

theorem not_approxOn {p p' : Parser} (hp : ApproxOn s p p') : ApproxOn s (not p) (not p') :=
  bind_approxOn _ hp

theorem map_approxOn {p p' : Parser} (f : Value → Except Fault Value) (hp : ApproxOn s p p') :
    ApproxOn s (map p f) (map p' f) :=
  bind_approxOn _ hp

theorem filter_approxOn {p p' : Parser} (ok : Value → Bool) (hp : ApproxOn s p p') :
    ApproxOn s (filter p ok) (filter p' ok) :=
  bind_approxOn _ hp

theorem traced_approxOn {p p' : Parser} (label : String) (hp : ApproxOn s p p') :
    ApproxOn s (traced p label) (traced p' label) :=
  fun c hc => Run.bind_approx (.refl _) fun _ _ => Run.bind_approx (hp c hc) fun _ _ => .refl _

/-- The loop of a repetition: each step runs from the cursor the last one left, on `s`. -/
theorem collect_approxOn {p p' : Parser} (hp : ApproxOn s p p') (hps : Keeps SameSource p) :
    ∀ fuel acc (c : Cursor Element), c.source = s →
      (collect p fuel acc c).Approx (collect p' fuel acc c) := by
  intro fuel
  induction fuel with
  | zero =>
    intro acc c hc
    rw [collect, collect]
    refine Run.bind_approx (hp c hc) fun o _ => ?_
    rcases o with _ | ⟨a, d⟩
    · exact .refl _
    · dsimp only
      split <;> exact .refl _
  | succ n ih =>
    intro acc c hc
    rw [collect, collect]
    refine Run.bind_approx (hp c hc) fun o ho => ?_
    rcases o with _ | ⟨a, d⟩
    · exact .refl _
    · dsimp only
      split
      · exact .refl _
      · exact ih _ d ((hps c a d ho).trans hc)

theorem many_approxOn {p p' : Parser} (hp : ApproxOn s p p') (hps : Keeps SameSource p) :
    ApproxOn s (many p) (many p') :=
  fun c hc => Run.bind_approx (collect_approxOn hp hps _ _ c hc) fun _ _ => .refl _

theorem many1_approxOn {p p' : Parser} (hp : ApproxOn s p p') (hps : Keeps SameSource p) :
    ApproxOn s (many1 p) (many1 p') := by
  intro c hc
  refine Run.bind_approx (hp c hc) fun o ho => ?_
  rcases o with _ | ⟨a, d⟩
  · exact .refl _
  · exact Run.bind_approx (collect_approxOn hp hps _ _ d ((hps c a d ho).trans hc))
      fun _ _ => .refl _

/-- The loop of a separated list: each step runs from the cursor the last one left, on `s`. -/
theorem collectSeparated_approxOn {item item' sep sep' : Parser} (hitem : ApproxOn s item item')
    (hitems : Keeps SameSource item) (hsep : ApproxOn s sep sep') (hseps : Keeps SameSource sep) :
    ∀ fuel acc (c : Cursor Element), c.source = s →
      (collectSeparated item sep fuel acc c).Approx (collectSeparated item' sep' fuel acc c) := by
  intro fuel
  induction fuel with
  | zero =>
    intro acc c hc
    rw [collectSeparated, collectSeparated]
    refine Run.bind_approx (hsep c hc) fun o ho => ?_
    rcases o with _ | ⟨a, d⟩
    · exact .refl _
    · refine Run.bind_approx (hitem d ((hseps c a d ho).trans hc)) fun o' _ => ?_
      rcases o' with _ | ⟨b, e⟩
      · exact .refl _
      · dsimp only
        split <;> exact .refl _
  | succ n ih =>
    intro acc c hc
    rw [collectSeparated, collectSeparated]
    refine Run.bind_approx (hsep c hc) fun o ho => ?_
    rcases o with _ | ⟨a, d⟩
    · exact .refl _
    · have hd : d.source = s := (hseps c a d ho).trans hc
      refine Run.bind_approx (hitem d hd) fun o' ho' => ?_
      rcases o' with _ | ⟨b, e⟩
      · exact .refl _
      · dsimp only
        split
        · exact .refl _
        · exact ih _ e ((hitems d b e ho').trans hd)

theorem sepBy_approxOn {item item' sep sep' : Parser} (hitem : ApproxOn s item item')
    (hitems : Keeps SameSource item) (hsep : ApproxOn s sep sep') (hseps : Keeps SameSource sep) :
    ApproxOn s (sepBy item sep) (sepBy item' sep') := by
  intro c hc
  refine Run.bind_approx (hitem c hc) fun o ho => ?_
  rcases o with _ | ⟨a, d⟩
  · exact .refl _
  · exact Run.bind_approx (collectSeparated_approxOn hitem hitems hsep hseps _ _ d
      ((hitems c a d ho).trans hc)) fun _ _ => .refl _

end Parser

/-! ## Approximating runs of grammars -/

namespace Grammar

open Cursor (SameSource)
open Descent.Parser (ApproxOn)

variable {rules : Rules} {s : Array Element}

/-- A grammar's runs approximate each other when the parsers of its references do. -/
theorem eval_approxOn {E E' : String → Parser} (hE : ∀ name, ApproxOn s (E name) (E' name))
    (hEs : ∀ name, Parser.Keeps SameSource (E name)) (g : Grammar) :
    ApproxOn s (g.eval E) (g.eval E') := by
  have hk : ∀ h : Grammar, Parser.Keeps SameSource (h.eval E) := fun h =>
    eval_keeps Cursor.sameSource_stepOrder (fun n _ => hEs n) (fun _ => Cursor.restart_sameSource)
  induction g with
  | any | endOfInput | rewind | accept _ | satisfy _ | literal _ => exact .refl _
  | ref name => exact hE name
  | seq p q ihp ihq => exact Parser.seq_approxOn ihp (hk p) ihq (hk q)
  | seqLeft p q ihp ihq => exact Parser.seqLeft_approxOn ihp (hk p) ihq (hk q)
  | seqRight p q ihp ihq => exact Parser.seqRight_approxOn ihp (hk p) ihq
  | alt p q ihp ihq => exact Parser.alt_approxOn ihp ihq
  | many p ih => exact Parser.many_approxOn ih (hk p)
  | many1 p ih => exact Parser.many1_approxOn ih (hk p)
  | optional p ih => exact Parser.optional_approxOn ih
  | not p ih => exact Parser.not_approxOn ih
  | map p f ih => exact Parser.map_approxOn _ ih
  | filter p q ih => exact Parser.filter_approxOn _ ih
  | between l p r ihl ihp ihr => exact Parser.between_approxOn ihl (hk l) ihp (hk p) ihr (hk r)
  | sepBy item sep ihi ihs => exact Parser.sepBy_approxOn ihi (hk item) ihs (hk sep)
  | traced p label ih => exact Parser.traced_approxOn label ih
  | lazy p ih | boxed p ih => exact ih

/-- References keep the source whenever the grammars of their rules are parsed so. -/
theorem expandRule_sameSource {A : List (String × Nat)}
    {next : List (String × Nat) → Grammar → Parser}
    (hnext : ∀ B h, Parser.Keeps SameSource (next B h)) (name : String) :
    Parser.Keeps SameSource (expandRule rules A next name) :=
  expandRule_keeps fun h _ B => hnext B h

theorem runWith_sameSource (fuel : Nat) (A : List (String × Nat)) (g : Grammar) :
    Parser.Keeps SameSource (runWith rules fuel A g) :=
  runWith_keeps Cursor.sameSource_stepOrder Cursor.restart_sameSource rules fuel A g

/-- A reference approximates another when fewer expansions are under way in the second, and
    the rule's grammar is parsed by approximating parsers. -/
theorem expandRule_approxOn {A A' : List (String × Nat)}
    {next next' : List (String × Nat) → Grammar → Parser} (hA : A' ⊆ A)
    (hnext : ∀ B B' h, B' ⊆ B → ApproxOn s (next B h) (next' B' h)) (name : String) :
    ApproxOn s (expandRule rules A next name) (expandRule rules A' next' name) := by
  intro c hc
  simp only [expandRule]
  split
  · exact .refl _
  · rename_i h _
    by_cases hm : (name, c.position) ∈ A
    · rw [if_pos hm]
      exact Run.stop_diverges_approx _
    · have hm' : (name, c.position) ∉ A' := fun h' => hm (hA h')
      rw [if_neg hm, if_neg hm']
      exact hnext _ _ h (List.cons_subset_cons _ hA) c hc

/-- More depth and fewer expansions under way: a run approximates the run that goes further. -/
theorem runWith_mono (s : Array Element) :
    ∀ {k k' : Nat} {A A' : List (String × Nat)} (g : Grammar), k ≤ k' → A' ⊆ A →
      ApproxOn s (runWith rules k A g) (runWith rules k' A' g) := by
  intro k
  induction k with
  | zero =>
    intro k' A A' g _ hA
    cases k' with
    | zero =>
      exact eval_approxOn (expandRule_approxOn hA fun _ _ _ _ c _ => .refl _)
        (expandRule_sameSource fun _ _ c v d hd => by cases hd) g
    | succ j =>
      exact eval_approxOn (expandRule_approxOn hA fun _ _ _ _ _ _ => Run.stop_diverges_approx _)
        (expandRule_sameSource fun _ _ c v d hd => by cases hd) g
  | succ j ih =>
    intro k' A A' g hk hA
    obtain ⟨j', rfl⟩ : ∃ j', k' = j' + 1 := ⟨k' - 1, by omega⟩
    exact eval_approxOn (expandRule_approxOn hA fun _ _ h hB => ih h (by omega) hB)
      (expandRule_sameSource fun B h => runWith_sameSource j B h) g

/-! ## The bound on expansions -/

/-- Distinct pairs of a rule of `rules` and a position from `lo` to `hi`: the expansions that
    can be under way in a run over positions in that window. -/
def Active (rules : Rules) (lo hi : Nat) (A : List (String × Nat)) : Prop :=
  A.Nodup ∧ ∀ x ∈ A, x.1 ∈ rules.map Prod.fst ∧ lo ≤ x.2 ∧ x.2 ≤ hi

theorem Active.nil (lo hi : Nat) : Active rules lo hi [] := ⟨List.nodup_nil, by simp⟩

/-- A name that has a rule is among the names of the rules. -/
theorem mem_names_of_lookup {name : String} {h : Grammar} (hh : rules.lookup name = some h) :
    name ∈ rules.map Prod.fst := by
  obtain ⟨l₁, l₂, rfl, -⟩ := List.lookup_eq_some_iff.mp hh
  simp

theorem Active.cons {lo hi : Nat} {A : List (String × Nat)} (hA : Active rules lo hi A)
    {name : String} {h : Grammar} {q : Nat} (hh : rules.lookup name = some h) (hlo : lo ≤ q)
    (hhi : q ≤ hi) (hq : (name, q) ∉ A) : Active rules lo hi ((name, q) :: A) := by
  refine ⟨List.nodup_cons.mpr ⟨hq, hA.1⟩, ?_⟩
  intro x hx
  rcases List.mem_cons.mp hx with rfl | hx
  · exact ⟨mem_names_of_lookup hh, hlo, hhi⟩
  · exact hA.2 x hx

/-- There are no more expansions under way than pairs of a rule and a position. -/
theorem Active.length_le {lo hi : Nat} {A : List (String × Nat)} (hA : Active rules lo hi A) :
    A.length ≤ rules.length * (hi + 1 - lo) := by
  classical
  have hsub : A.toFinset ⊆ (rules.map Prod.fst).toFinset ×ˢ Finset.Icc lo hi := by
    intro x hx
    obtain ⟨h1, h2, h3⟩ := hA.2 x (List.mem_toFinset.mp hx)
    simp only [Finset.mem_product, List.mem_toFinset, Finset.mem_Icc]
    exact ⟨h1, h2, h3⟩
  calc A.length = A.toFinset.card := (List.toFinset_card_of_nodup hA.1).symm
    _ ≤ ((rules.map Prod.fst).toFinset ×ˢ Finset.Icc lo hi).card := Finset.card_le_card hsub
    _ = (rules.map Prod.fst).toFinset.card * (hi + 1 - lo) := by
      rw [Finset.card_product, Nat.card_Icc]
    _ ≤ rules.length * (hi + 1 - lo) := by
      have := List.toFinset_card_le (rules.map Prod.fst)
      rw [List.length_map] at this
      exact Nat.mul_le_mul_right _ this

/-- With depth and expansions at the bound, one more unit of depth changes nothing: a new
    expansion would be one pair more than there are. -/
theorem runWith_succ_approxOn (s : Array Element) :
    ∀ (k : Nat) (A : List (String × Nat)) (g : Grammar), Active rules 0 s.size A →
      rules.length * (s.size + 1) ≤ k + A.length →
      ApproxOn s (runWith rules (k + 1) A g) (runWith rules k A g) := by
  intro k
  induction k with
  | zero =>
    intro A g hA hb
    refine eval_approxOn (fun name c hc => ?_) (expandRule_sameSource fun B h => ?_) g
    · simp only [expandRule]
      split
      · exact .refl _
      · rename_i h hh
        split
        · exact .refl _
        · rename_i hm
          -- a new pair would be one more than the bound allows
          have hA' := hA.cons hh (Nat.zero_le _) (hc ▸ c.position_le) hm
          have := hA'.length_le
          simp only [List.length_cons, Nat.sub_zero] at this
          omega
    · exact runWith_sameSource 0 B h
  | succ j ih =>
    intro A g hA hb
    refine eval_approxOn (fun name c hc => ?_) (expandRule_sameSource fun B h => ?_) g
    · simp only [expandRule]
      split
      · exact .refl _
      · rename_i h hh
        split
        · exact .refl _
        · rename_i hm
          have hA' := hA.cons hh (Nat.zero_le _) (hc ▸ c.position_le) hm
          exact ih _ h hA' (by simp only [List.length_cons]; omega) c hc
    · exact runWith_sameSource (j + 1) B h

/-- Past the bound, the depth of a run does not matter. -/
theorem runWith_add {c : Cursor Element} {A : List (String × Nat)} (g : Grammar)
    (hA : Active rules 0 c.source.size A) {k : Nat}
    (hb : rules.length * (c.source.size + 1) ≤ k + A.length) :
    ∀ j, runWith rules (k + j) A g c = runWith rules k A g c := by
  intro j
  induction j with
  | zero => rfl
  | succ j ih =>
    rw [← ih, ← Nat.add_assoc]
    exact (runWith_succ_approxOn _ (k + j) A g hA (by omega)).antisymm
      (runWith_mono _ g (Nat.le_succ _) (List.Subset.refl A)) rfl

/-- A run of a grammar is its run with any depth from `depth` on. -/
theorem run_eq_runWith (g : Grammar) {c : Cursor Element} {K : Nat} (hK : depth rules c ≤ K) :
    g.run rules c = runWith rules K [] g c := by
  obtain ⟨j, rfl⟩ : ∃ j, K = depth rules c + j := ⟨K - depth rules c, by omega⟩
  exact (runWith_add g (Active.nil 0 _) (Nat.le_refl _) j).symm

/-- Every run of a grammar, with any depth and any expansions under way, approximates its run. -/
theorem runWith_approx_run (k : Nat) (A : List (String × Nat)) (g : Grammar)
    (c : Cursor Element) : (runWith rules k A g c).Approx (g.run rules c) := by
  rw [run_eq_runWith g (Nat.le_max_right k (depth rules c))]
  exact runWith_mono c.source g (Nat.le_max_left _ _) (List.nil_subset A) c rfl

end Grammar

end Descent
