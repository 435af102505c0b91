import Descent.Proofs.Compose
import Descent.Proofs.Separated
import Descent.Proofs.Termination

/-! # Repetition is greedy

    A repetition runs its body from its cursor, then from the cursor each match leaves, until
    the body does not match; its values are those of the matches, in order. It never fails
    to match. When every match of the body moves on, on the same source, the loop's count of
    steps, one per position, outlasts the matches, and the run of a repetition is told by the
    chain of the body's matches (`Parser.Steps`) and by how the body ends after it
    (`Parser.many_run`):

    * it gives the values of the chain and the cursor where the body does not match, or it
      stops as the body stops there;
    * it reports the events of the body's runs from the cursors of the chain and from the
      last one, in that order, and runs the body nowhere else.

    The chain is determined by the body and the cursor (`Parser.Steps.unique`), so the count
    of steps does not matter once it outlasts the elements left, and the loop started with
    values already collected puts the chain's values after them
    (`Grammar.collect_appends_many`). A repetition of one or more
    is its body followed by a repetition of zero or more (`Parser.many1_eq_seq_many`): it
    fails exactly where its body fails, and elsewhere it is the repetition of zero or more.
-/

namespace Descent

/-- `d` is on the same source as `c`, strictly after its position. -/
def Cursor.Ahead (c d : Cursor Element) : Prop := d.source = c.source ∧ c.position < d.position

/-- A cursor ahead of another has fewer elements left. -/
theorem Cursor.Ahead.remaining_lt {c d : Cursor Element} (h : Cursor.Ahead c d) :
    d.remaining < c.remaining :=
  Cursor.Forward.remaining_lt ⟨h.1, h.2.le⟩ (Nat.ne_of_gt h.2)

namespace Parser

/-! ## Chains of matches -/

/-- `p` matches from `c`, then from the cursor it left, and so on: the values `vs`, from the
    cursors `cs` in order, ending at `r`. -/
inductive Steps (p : Parser) :
    Cursor Element → List Value → List (Cursor Element) → Cursor Element → Prop
  | refl (c : Cursor Element) : Steps p c [] [] c
  | cons {c d r : Cursor Element} {v : Value} {vs : List Value} {cs : List (Cursor Element)} :
      (p c).result = .ok (some (v, d)) → Steps p d vs cs r → Steps p c (v :: vs) (c :: cs) r

/-- `p` does not match from `c`: it gives no match, or it stops. -/
def Misses (p : Parser) (c : Cursor Element) : Prop := ∀ x, (p c).result ≠ .ok (some x)

variable {p : Parser} {c : Cursor Element}

theorem misses_or_match (p : Parser) (c : Cursor Element) :
    Misses p c ∨ ∃ a d, (p c).result = .ok (some (a, d)) := by
  by_cases h : ∃ a d, (p c).result = .ok (some (a, d))
  · exact .inr h
  · refine .inl fun x hx => h ⟨x.1, x.2, hx⟩

/-- A chain that ends where `p` does not match is the only one: from each cursor, `p` gives one
    result. -/
theorem Steps.unique {vs vs' : List Value} {cs cs' : List (Cursor Element)}
    {r r' : Cursor Element} (h : Steps p c vs cs r) (hr : Misses p r) (h' : Steps p c vs' cs' r')
    (hr' : Misses p r') : vs = vs' ∧ cs = cs' ∧ r = r' := by
  induction h generalizing vs' cs' with
  | refl c =>
    cases h' with
    | refl => exact ⟨rfl, rfl, rfl⟩
    | cons hm _ => exact absurd hm (hr _)
  | cons hm _ ih =>
    cases h' with
    | refl => exact absurd hm (hr' _)
    | cons hm' hs' =>
      -- both chains take the one match of `p` from the first cursor
      rw [hm] at hm'
      obtain ⟨rfl, rfl⟩ := Prod.mk.inj (Option.some.inj (Except.ok.inj hm'))
      obtain ⟨rfl, rfl, rfl⟩ := ih hr hs'
      exact ⟨rfl, rfl, rfl⟩

/-- A chain starts from its first cursor: the cursors it runs from, with the one where it ends,
    are its first cursor and the rest. -/
theorem Steps.append_eq_cons {vs : List Value} {cs : List (Cursor Element)} {r : Cursor Element}
    (h : Steps p c vs cs r) : ∃ t, cs ++ [r] = c :: t := by
  cases h with
  | refl => exact ⟨[], rfl⟩
  | cons => exact ⟨_, rfl⟩

section Ahead

variable (hp : Keeps Cursor.Ahead p)
include hp

/-- Each match of a chain whose matches move on leaves fewer elements: the chain has no more
    matches than the elements it reads. -/
theorem Steps.length_add_remaining_le {vs : List Value} {cs : List (Cursor Element)}
    {r : Cursor Element} (h : Steps p c vs cs r) : cs.length + r.remaining ≤ c.remaining := by
  induction h with
  | refl => simp
  | cons hm _ ih =>
    have := (hp _ _ _ hm).remaining_lt
    simp only [List.length_cons]
    omega

/-- The cursors of a chain whose matches move on, with the one where it ends, each lie ahead of
    the one before. -/
theorem Steps.isChain_ahead {vs : List Value} {cs : List (Cursor Element)} {r : Cursor Element}
    (h : Steps p c vs cs r) : List.IsChain Cursor.Ahead (cs ++ [r]) := by
  induction h with
  | refl c => exact .singleton c
  | cons hm hs ih =>
    -- the rest of the chain starts at the cursor the first match left
    obtain ⟨t, ht⟩ := hs.append_eq_cons
    rw [ht] at ih
    rw [List.cons_append, ht]
    exact .cons_cons (hp _ _ _ hm) ih

end Ahead

/-! ## The loop -/

theorem collect_of_noMatch {f : Nat} {acc : Array Value} (h : (p c).result = .ok none) :
    collect p f acc c = ⟨(p c).events, .ok (acc, c)⟩ := by
  rw [collect, Run.bind_of_ok h]
  simp

theorem collect_of_stop {f : Nat} {acc : Array Value} {s : Stop} (h : (p c).result = .error s) :
    collect p f acc c = ⟨(p c).events, .error s⟩ := by
  rw [collect, Run.bind_of_error h]

/-- After a match that moves on, the loop goes on from the cursor it left, one step fewer. -/
theorem collect_of_match {f : Nat} {acc : Array Value} {a : Value} {d : Cursor Element}
    (h : (p c).result = .ok (some (a, d))) (hd : d.position ≠ c.position) :
    collect p (f + 1) acc c =
      ⟨(p c).events ++ (collect p f (acc.push a) d).events,
        (collect p f (acc.push a) d).result⟩ := by
  rw [collect, Run.bind_of_ok h]
  dsimp only
  rw [if_neg hd]

/-- Where `p` does not match, the loop ends at once, with the values it was given, or stops. -/
theorem collect_of_misses {f : Nat} {acc : Array Value} (h : Misses p c) :
    collect p f acc c = ⟨(p c).events, (p c).result.map fun _ => (acc, c)⟩ := by
  cases hr : (p c).result with
  | error s =>
    rw [collect_of_stop hr]
    rfl
  | ok o =>
    rcases o with _ | x
    · rw [collect_of_noMatch hr]
      rfl
    · exact absurd hr (h x)

/-- When every match of `p` moves on, the loop with as many steps as elements left runs `p`
    along the chain of its matches, then once more where it does not match: the loop reports
    the events of those runs, and gives the values of the chain, put after the ones it was
    given, or stops as `p` stops at the end. -/
theorem collect_run (hp : Keeps Cursor.Ahead p) (f : Nat) (acc : Array Value)
    (c : Cursor Element) (hc : c.remaining ≤ f) :
    ∃ vs cs r, Steps p c vs cs r ∧ Misses p r ∧
      collect p f acc c = ⟨(cs ++ [r]).flatMap fun d => (p d).events,
        (p r).result.map fun _ => (acc ++ vs.toArray, r)⟩ := by
  -- induction on the count of steps: each match leaves fewer elements, and so one step fewer
  induction f generalizing acc c with
  | zero =>
    -- no element is left, so `p` cannot move on: it does not match
    have hm : Misses p c := fun x h => by
      have := (hp c x.1 x.2 h).remaining_lt
      omega
    refine ⟨[], [], c, .refl c, hm, ?_⟩
    rw [collect_of_misses hm]
    simp
  | succ n ih =>
    obtain hm | ⟨a, d, h⟩ := misses_or_match p c
    · refine ⟨[], [], c, .refl c, hm, ?_⟩
      rw [collect_of_misses hm]
      simp
    · have hlt := (hp c a d h).remaining_lt
      obtain ⟨vs, cs, r, hs, hr, heq⟩ := ih (acc.push a) d (by omega)
      refine ⟨a :: vs, c :: cs, r, .cons h hs, hr, ?_⟩
      rw [collect_of_match h (Nat.ne_of_gt (hp c a d h).2), heq]
      simp

/-! ## Repetitions of zero or more -/

/-- A repetition never fails to match. -/
theorem many_ne_noMatch (p : Parser) (c : Cursor Element) : (many p c).result ≠ .ok none := by
  intro h
  obtain ⟨x, -, h⟩ := Run.bind_eq_ok.mp h
  cases h

theorem many_of_noMatch (h : (p c).result = .ok none) :
    many p c = ⟨(p c).events, .ok (some (.list [], c))⟩ := by
  show collect p (budget c) #[] c >>= _ = _
  rw [collect_of_noMatch h, Run.bind_of_ok rfl]
  simp

/-- The run of a repetition whose body moves on at every match: the chain of the body's
    matches from `c`, its events and those of the body where the chain ends, and the list of
    the chain's values, or the stop of the body there. -/
theorem many_run (hp : Keeps Cursor.Ahead p) (c : Cursor Element) :
    ∃ vs cs r, Steps p c vs cs r ∧ Misses p r ∧
      many p c = ⟨(cs ++ [r]).flatMap fun d => (p d).events,
        (p r).result.map fun _ => some (.list vs, r)⟩ := by
  obtain ⟨vs, cs, r, hs, hr, heq⟩ := collect_run hp (budget c) #[] c (remaining_lt_budget c).le
  refine ⟨vs, cs, r, hs, hr, ?_⟩
  show collect p (budget c) #[] c >>= _ = _
  rw [heq, Run.bind_eq_map (f := fun x => some (.list x.1.toList, x.2))
    fun x => by rcases x with ⟨vs, d⟩; rfl]
  cases (p r).result <;> simp [Except.map]

/-- A repetition gives no value and stays where it is exactly where its body does not match. -/
theorem many_nil_iff (hp : Keeps Cursor.Ahead p) (c : Cursor Element) :
    (many p c).result = .ok (some (.list [], c)) ↔ (p c).result = .ok none := by
  refine ⟨fun h => ?_, fun h => by rw [many_of_noMatch h]⟩
  obtain ⟨vs, cs, r, hs, hr, heq⟩ := many_run hp c
  rw [heq] at h
  -- only a body that does not match at the end gives a value, here the empty list
  cases hpr : (p r).result with
  | error s =>
    rw [hpr] at h
    cases h
  | ok o =>
    rw [hpr] at h
    simp only [Except.map, Except.ok.injEq, Option.some.injEq, Prod.mk.injEq,
      Value.list.injEq] at h
    obtain ⟨rfl, rfl⟩ := h
    rcases o with _ | x
    · exact hpr
    · exact absurd hpr (hr x)

/-- A repetition followed by its body fails wherever the repetition matches: the body does not
    match where the repetition ends. Where the repetition stops, the sequence stops alike. -/
theorem seq_many_self (hp : Keeps Cursor.Ahead p) (c : Cursor Element) :
    (seq (many p) p c).result = (many p c).result.map fun _ => none := by
  obtain ⟨vs, cs, r, -, hr, heq⟩ := many_run hp c
  cases hpr : (p r).result with
  | error s =>
    have hm : (many p c).result = .error s := by rw [heq, hpr]; rfl
    rw [seq_of_stop hm, hm]
    rfl
  | ok o =>
    rcases o with _ | x
    · have hm : (many p c).result = .ok (some (.list vs, r)) := by rw [heq, hpr]; rfl
      rw [seq_of_match hm, hm, hpr]
      rfl
    · exact absurd hpr (hr x)

/-! ## Repetitions of one or more -/

/-- A repetition of one or more is its body followed by a repetition of zero or more, the first
    value put before the others. -/
theorem many1_eq_seq_many (p : Parser) :
    many1 p = map (seq p (many p)) (fun v => .ok v.prepend) := by
  funext c
  show p c >>= _ = (p c >>= _) >>= _
  rw [bind_assoc]
  congr 1
  funext o
  rcases o with _ | ⟨a, d⟩
  · rfl
  · -- the loop seeded with the first value collects what the loop from nothing collects
    dsimp only
    simp only [andThen, many, yield, bind_assoc]
    rw [collect_acc, bind_assoc]
    simp only [pure_bind]
    congr 1
    funext x
    simp [Value.prepend]

/-- After a first match, a repetition of one or more runs the repetition of zero or more from
    where it left, and puts the first value before the others. -/
theorem many1_of_match {a : Value} {d : Cursor Element} (h : (p c).result = .ok (some (a, d))) :
    many1 p c = ⟨(p c).events ++ (many p d).events,
      (many p d).result.map (Option.map fun x => ((Value.pair a x.1).prepend, x.2))⟩ := by
  rw [many1_eq_seq_many, map_ok_eq, seq_of_match h]
  cases (many p d).result with
  | error s => rfl
  | ok o => rcases o with _ | x <;> rfl

theorem many1_of_noMatch (h : (p c).result = .ok none) :
    many1 p c = ⟨(p c).events, .ok none⟩ := by
  rw [many1_eq_seq_many, map_ok_eq, seq_of_noMatch h]
  rfl

/-- The value of a repetition is a list. -/
theorem many_value {v : Value} {r : Cursor Element} (h : (many p c).result = .ok (some (v, r))) :
    ∃ vs, v = .list vs := by
  obtain ⟨x, -, h⟩ := Run.bind_eq_ok.mp h
  cases h
  exact ⟨_, rfl⟩

/-- The value of a repetition of one or more is a list of one value or more. -/
theorem many1_value {v : Value} {r : Cursor Element}
    (h : (many1 p c).result = .ok (some (v, r))) : ∃ a vs, v = .list (a :: vs) := by
  -- the first value, put before the list of the repetition that follows
  rw [many1_eq_seq_many] at h
  obtain ⟨x, hx, rfl⟩ := match_of_map_ok h
  obtain ⟨a, d, b, -, hb, rfl⟩ := seq_ok hx
  obtain ⟨vs, rfl⟩ := many_value hb
  exact ⟨a, vs, rfl⟩

/-- A repetition of one or more fails exactly where its body fails. -/
theorem many1_eq_noMatch_iff (p : Parser) (c : Cursor Element) :
    (many1 p c).result = .ok none ↔ (p c).result = .ok none := by
  refine ⟨fun h => ?_, fun h => by rw [many1_of_noMatch h]⟩
  cases hpc : (p c).result with
  | error s =>
    rw [many1_eq_seq_many, map_ok_eq, seq_of_stop hpc] at h
    cases h
  | ok o =>
    rcases o with _ | ⟨a, d⟩
    · rfl
    · -- after a first match the repetition that follows always matches, or stops
      rw [many1_of_match hpc] at h
      cases hm : (many p d).result with
      | error s =>
        rw [hm] at h
        cases h
      | ok o' =>
        rcases o' with _ | x
        · exact absurd hm (many_ne_noMatch p d)
        · rw [hm] at h
          cases h

/-- Where its body does not fail, a repetition of zero or more is the repetition of one or
    more: they run the body on the same cursors and report the same events. -/
theorem many_eq_many1 (hp : Keeps Cursor.Ahead p) (h : (p c).result ≠ .ok none) :
    many p c = many1 p c := by
  obtain ⟨vs, cs, r, hs, hr, heq⟩ := many_run hp c
  cases hs with
  | refl =>
    -- the body stops at once
    cases hpc : (p c).result with
    | error s =>
      rw [heq, many1_eq_seq_many, map_ok_eq, seq_of_stop hpc, hpc]
      simp [Except.map]
    | ok o =>
      rcases o with _ | x
      · exact absurd hpc h
      · exact absurd hpc (hr x)
  | @cons _ d _ v vs' cs' hpc hs' =>
    -- the chain from `c` is its first match followed by the chain from where it left
    obtain ⟨vs'', cs'', r', hs'', hr', heq'⟩ := many_run hp d
    obtain ⟨rfl, rfl, rfl⟩ := hs'.unique hr hs'' hr'
    rw [heq, many1_of_match hpc, heq']
    cases (p r).result with
    | error s => simp [Except.map]
    | ok o => simp [Except.map, Value.prepend]

end Parser

/-! ## Repetitions of grammars -/

namespace Grammar

open Descent.Parser (Steps Misses)

variable {rules : Rules}

/-- The body of a repetition that moves on at each match moves on, on the same source. -/
theorem Advancing.ahead {p : Grammar} (hp : p.Advancing rules) :
    Parser.Keeps Cursor.Ahead (p.run rules) :=
  fun c v d h => ⟨run_sameSource rules p c v d h, hp c v d h⟩

/-- A one-element test reads one element whenever it matches. -/
theorem advancing_accept (rules : Rules) (e : Element) : (Grammar.accept e).Advancing rules := by
  intro c v d h
  rw [run_eq_eval] at h
  have := Parser.satisfy_position h
  omega

/-- A repetition of zero or more is greedy and maximal. When every match of its body `p` moves
    on, there is a chain of matches of `p` from `c`, `c = c₀, ..., cₙ = r`, with the values
    `v₁, ..., vₙ`, such that `p` does not match from `r`; the repetition runs `p` on
    `c₀, ..., cₙ` in that order and nowhere else, and gives `[v₁, ..., vₙ]` and `r` where `p`
    fails at `r`, or stops as `p` stops there. It never fails; it gives no value and `c`
    itself exactly where `p` fails at `c`; and a repetition of zero or of one or more followed
    by `p` fails wherever the repetition matches. -/
theorem run_many_greedy {p : Grammar} (hp : p.Advancing rules) (c : Cursor Element) :
    (∃ vs cs r, Steps (p.run rules) c vs cs r ∧ Misses (p.run rules) r ∧
      (Grammar.many p).run rules c = ⟨(cs ++ [r]).flatMap fun d => (p.run rules d).events,
        (p.run rules r).result.map fun _ => some (.list vs, r)⟩) ∧
    ((Grammar.many p).run rules c).result ≠ .ok none ∧
    (((Grammar.many p).run rules c).result = .ok (some (.list [], c)) ↔
      (p.run rules c).result = .ok none) ∧
    ((Grammar.seq (.many p) p).run rules c).result =
      ((Grammar.many p).run rules c).result.map (fun _ => none) ∧
    ((Grammar.seq (.many1 p) p).run rules c).result =
      ((Grammar.many1 p).run rules c).result.map (fun _ => none) := by
  have ha := hp.ahead
  rw [run_seq, run_seq, run_many, run_many1]
  refine ⟨Parser.many_run ha c, Parser.many_ne_noMatch _ c, Parser.many_nil_iff ha c,
    Parser.seq_many_self ha c, ?_⟩
  -- one or more: where the body fails so does the sequence, and elsewhere it is zero or more
  by_cases hpc : (p.run rules c).result = .ok none
  · have hm := Parser.many1_of_noMatch (p := p.run rules) hpc
    rw [Parser.seq_of_noMatch (by rw [hm]), hm]
    rfl
  · show (Parser.many1 (p.run rules) c >>= _).result = _
    rw [← Parser.many_eq_many1 ha hpc]
    exact Parser.seq_many_self ha c

/-- `a` repeated, on `ab`: one match of `a`, from the start, and `a` does not match at `b`. -/
theorem run_many_greedy_ab :
    (Grammar.accept (.char 'a')).Advancing [] ∧
      ((∃ vs cs r, Steps ((Grammar.accept (.char 'a')).run [])
          (Cursor.start #[.char 'a', .char 'b']) vs cs r ∧ Misses ((Grammar.accept (.char 'a')).run []) r ∧
        (Grammar.many (.accept (.char 'a'))).run [] (Cursor.start #[.char 'a', .char 'b']) =
          ⟨(cs ++ [r]).flatMap fun d => ((Grammar.accept (.char 'a')).run [] d).events,
            ((Grammar.accept (.char 'a')).run [] r).result.map fun _ => some (.list vs, r)⟩) ∧
      ((Grammar.many (.accept (.char 'a'))).run []
        (Cursor.start #[.char 'a', .char 'b'])).result ≠ .ok none ∧
      (((Grammar.many (.accept (.char 'a'))).run [] (Cursor.start #[.char 'a', .char 'b'])).result =
          .ok (some (.list [], Cursor.start #[.char 'a', .char 'b'])) ↔
        ((Grammar.accept (.char 'a')).run [] (Cursor.start #[.char 'a', .char 'b'])).result =
          .ok none) ∧
      ((Grammar.seq (.many (.accept (.char 'a'))) (.accept (.char 'a'))).run []
          (Cursor.start #[.char 'a', .char 'b'])).result =
        ((Grammar.many (.accept (.char 'a'))).run []
          (Cursor.start #[.char 'a', .char 'b'])).result.map (fun _ => none) ∧
      ((Grammar.seq (.many1 (.accept (.char 'a'))) (.accept (.char 'a'))).run []
          (Cursor.start #[.char 'a', .char 'b'])).result =
        ((Grammar.many1 (.accept (.char 'a'))).run []
          (Cursor.start #[.char 'a', .char 'b'])).result.map (fun _ => none)) :=
  ⟨advancing_accept [] _, run_many_greedy (advancing_accept [] _) _⟩

/-- A repetition of one or more refines the repetition of zero or more. It is its body followed
    by a repetition of zero or more, the first value put before the others: it fails exactly
    where its body fails, after a first match `(v, r)` it gives `v` before the values of the
    repetition from `r`, and its list is never empty. When every match of the body moves on,
    the repetition of zero or more is the same run wherever the one of one or more does not
    fail, and gives no value at `c` where it fails; the two report the same events. -/
theorem run_many1_refines_many {p : Grammar} (hp : p.Advancing rules) (c : Cursor Element) :
    (Grammar.many1 p).run rules =
        Parser.map (Parser.seq (p.run rules) ((Grammar.many p).run rules))
          (fun v => .ok v.prepend) ∧
      (((Grammar.many1 p).run rules c).result = .ok none ↔
        (p.run rules c).result = .ok none) ∧
      (∀ v r vs r', (p.run rules c).result = .ok (some (v, r)) →
        ((Grammar.many p).run rules r).result = .ok (some (.list vs, r')) →
        ((Grammar.many1 p).run rules c).result = .ok (some (.list (v :: vs), r'))) ∧
      (((Grammar.many1 p).run rules c).result ≠ .ok none →
        (Grammar.many p).run rules c = (Grammar.many1 p).run rules c) ∧
      (((Grammar.many1 p).run rules c).result = .ok none →
        ((Grammar.many p).run rules c).result = .ok (some (.list [], c))) ∧
      (∀ v r, ((Grammar.many1 p).run rules c).result = .ok (some (v, r)) →
        ∃ a vs, v = .list (a :: vs)) ∧
      ((Grammar.many p).run rules c).events = ((Grammar.many1 p).run rules c).events := by
  have ha := hp.ahead
  rw [run_many, run_many1]
  refine ⟨Parser.many1_eq_seq_many _, Parser.many1_eq_noMatch_iff _ c, ?_, ?_, ?_,
    fun v r h => Parser.many1_value h, ?_⟩
  · intro v r vs r' hpc hm
    rw [Parser.many1_of_match hpc, hm]
    rfl
  · intro h
    exact Parser.many_eq_many1 ha fun hpc => h ((Parser.many1_eq_noMatch_iff _ c).mpr hpc)
  · intro h
    rw [Parser.many_of_noMatch ((Parser.many1_eq_noMatch_iff _ c).mp h)]
  · -- where the body fails, both report its events alone
    by_cases hpc : (p.run rules c).result = .ok none
    · rw [Parser.many_of_noMatch hpc, Parser.many1_of_noMatch hpc]
    · rw [Parser.many_eq_many1 ha hpc]

/-- `a` repeated once or more, on `b`: it fails, as `a` does, and `a` repeated from nothing on
    gives no value at the start. -/
theorem run_many1_refines_many_b :
    (Grammar.accept (.char 'a')).Advancing [] ∧
      ((Grammar.many1 (.accept (.char 'a'))).run [] =
          Parser.map (Parser.seq ((Grammar.accept (.char 'a')).run [])
            ((Grammar.many (.accept (.char 'a'))).run [])) (fun v => .ok v.prepend) ∧
        (((Grammar.many1 (.accept (.char 'a'))).run [] (Cursor.start #[.char 'b'])).result =
            .ok none ↔
          ((Grammar.accept (.char 'a')).run [] (Cursor.start #[.char 'b'])).result = .ok none) ∧
        (∀ v r vs r', ((Grammar.accept (.char 'a')).run [] (Cursor.start #[.char 'b'])).result =
            .ok (some (v, r)) →
          ((Grammar.many (.accept (.char 'a'))).run [] r).result = .ok (some (.list vs, r')) →
          ((Grammar.many1 (.accept (.char 'a'))).run [] (Cursor.start #[.char 'b'])).result =
            .ok (some (.list (v :: vs), r'))) ∧
        (((Grammar.many1 (.accept (.char 'a'))).run [] (Cursor.start #[.char 'b'])).result ≠
            .ok none →
          (Grammar.many (.accept (.char 'a'))).run [] (Cursor.start #[.char 'b']) =
            (Grammar.many1 (.accept (.char 'a'))).run [] (Cursor.start #[.char 'b'])) ∧
        (((Grammar.many1 (.accept (.char 'a'))).run [] (Cursor.start #[.char 'b'])).result =
            .ok none →
          ((Grammar.many (.accept (.char 'a'))).run [] (Cursor.start #[.char 'b'])).result =
            .ok (some (.list [], Cursor.start #[.char 'b']))) ∧
        (∀ v r, ((Grammar.many1 (.accept (.char 'a'))).run []
            (Cursor.start #[.char 'b'])).result = .ok (some (v, r)) →
          ∃ a vs, v = .list (a :: vs)) ∧
        ((Grammar.many (.accept (.char 'a'))).run [] (Cursor.start #[.char 'b'])).events =
          ((Grammar.many1 (.accept (.char 'a'))).run [] (Cursor.start #[.char 'b'])).events) :=
  ⟨advancing_accept [] _, run_many1_refines_many (advancing_accept [] _) _⟩

/-- The loop of a repetition generalises it over what it has collected. When every match of
    `p` moves on, the loop started from `c` with the values `acc` and a count of steps for every
    position gives `acc` followed by the values of the repetition of `p` from `c`, and the
    cursor where the repetition ends, or it stops as the repetition stops; the two report the
    same events. Both run `p` from the cursors of one chain of matches and from the cursor
    where it ends, each lying ahead of the one before, no more of them than the elements left
    of `c` and one more. -/
theorem collect_appends_many {p : Grammar} (hp : p.Advancing rules) (c : Cursor Element)
    (acc : Array Value) :
    ∃ vs cs r, Steps (p.run rules) c vs cs r ∧ Misses (p.run rules) r ∧
      Parser.collect (p.run rules) (Parser.budget c) acc c =
        ⟨(cs ++ [r]).flatMap fun d => (p.run rules d).events,
          (p.run rules r).result.map fun _ => (acc ++ vs.toArray, r)⟩ ∧
      (Grammar.many p).run rules c =
        ⟨(cs ++ [r]).flatMap fun d => (p.run rules d).events,
          (p.run rules r).result.map fun _ => some (.list vs, r)⟩ ∧
      (cs ++ [r]).length ≤ c.remaining + 1 ∧
      List.IsChain Cursor.Ahead (cs ++ [r]) := by
  have ha := hp.ahead
  obtain ⟨vs, cs, r, hs, hr, hcollect⟩ :=
    Parser.collect_run ha (Parser.budget c) acc c (Parser.remaining_lt_budget c).le
  -- the repetition follows the same chain: from `c`, there is only one that ends
  obtain ⟨vs', cs', r', hs', hr', hmany⟩ := Parser.many_run ha c
  obtain ⟨rfl, rfl, rfl⟩ := hs.unique hr hs' hr'
  have hlen := hs.length_add_remaining_le ha
  refine ⟨vs, cs, r, hs, hr, hcollect, by rw [run_many]; exact hmany, ?_, hs.isChain_ahead ha⟩
  simp only [List.length_append, List.length_singleton]
  omega

/-- `a` repeated on `aab`, seeded with `x`: the loop gives `x a a` and stops before `b`. -/
theorem collect_appends_many_aab :
    (Grammar.accept (.char 'a')).Advancing [] ∧
      ∃ vs cs r, Steps ((Grammar.accept (.char 'a')).run [])
          (Cursor.start #[.char 'a', .char 'a', .char 'b']) vs cs r ∧
        Misses ((Grammar.accept (.char 'a')).run []) r ∧
        Parser.collect ((Grammar.accept (.char 'a')).run [])
            (Parser.budget (Cursor.start #[.char 'a', .char 'a', .char 'b'])) #[.char 'x']
            (Cursor.start #[.char 'a', .char 'a', .char 'b']) =
          ⟨(cs ++ [r]).flatMap fun d => ((Grammar.accept (.char 'a')).run [] d).events,
            ((Grammar.accept (.char 'a')).run [] r).result.map
              fun _ => (#[.char 'x'] ++ vs.toArray, r)⟩ ∧
        (Grammar.many (.accept (.char 'a'))).run []
            (Cursor.start #[.char 'a', .char 'a', .char 'b']) =
          ⟨(cs ++ [r]).flatMap fun d => ((Grammar.accept (.char 'a')).run [] d).events,
            ((Grammar.accept (.char 'a')).run [] r).result.map
              fun _ => some (.list vs, r)⟩ ∧
        (cs ++ [r]).length ≤
          (Cursor.start #[Element.char 'a', .char 'a', .char 'b']).remaining + 1 ∧
        List.IsChain Cursor.Ahead (cs ++ [r]) :=
  ⟨advancing_accept [] _, collect_appends_many (advancing_accept [] _) _ _⟩

end Grammar

end Descent
