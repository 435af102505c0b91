import Descent.Proofs.Approx

/-! # Runs of combinators, and runs of grammars compose

    A sequence, a choice and a repetition run their parts one after another, each on the
    cursor it is given; their runs are told by the results of the parts, one case each
    (`Parser.seq_of_match`, `Parser.alt_of_noMatch`, ...). Later laws of combinators read
    their parts through these cases alone.

    `Grammar.run` runs a grammar at a depth that depends on the source of its cursor. Every
    cursor such a run reaches is on that source, where the runs of a reference at that depth
    are the runs of the reference itself. A grammar's run is therefore its tree read over the
    runs of its references (`Grammar.run_eq_eval`), and every combinator of grammars runs as
    the combinator of parsers over the runs of its parts (`Grammar.run_seq`, ...): a law of
    the parser combinators is a law of grammars as they are written.
-/

namespace Descent

namespace Run

variable {β γ : Type}

/-- A run followed by a result computed from its own: the same events, the result mapped. -/
theorem bind_pure_eq (r : Run β) (f : β → γ) :
    (r >>= fun b => pure (f b)) = ⟨r.events, r.result.map f⟩ := by
  cases hr : r.result with
  | ok b =>
    rw [bind_of_ok hr]
    simp [Except.map]
  | error s =>
    rw [bind_of_error hr]
    rfl

/-- A run followed by a continuation that only computes a result from the first one's. -/
theorem bind_eq_map {r : Run β} {k : β → Run γ} {f : β → γ} (hk : ∀ b, k b = pure (f b)) :
    r >>= k = ⟨r.events, r.result.map f⟩ := by
  rw [show k = fun b => pure (f b) from funext hk, bind_pure_eq]

end Run

namespace Parser

/-! ## Sequences and choices, case by case -/

variable {p q : Parser} {c : Cursor Element}

/-- A sequence whose first part does not match does not match, and reports the first part's
    events. -/
theorem andThen_of_noMatch {k : Value → Parser} (h : (p c).result = .ok none) :
    p.andThen k c = ⟨(p c).events, .ok none⟩ := by
  show p c >>= _ = _
  rw [Run.bind_of_ok h]
  simp

/-- A sequence whose first part stops stops alike. -/
theorem andThen_of_stop {k : Value → Parser} {s : Stop} (h : (p c).result = .error s) :
    p.andThen k c = ⟨(p c).events, .error s⟩ := by
  show p c >>= _ = _
  rw [Run.bind_of_error h]

/-- After a match of its first part, a sequence runs its second from the cursor left. -/
theorem andThen_of_match {k : Value → Parser} {a : Value} {d : Cursor Element}
    (h : (p c).result = .ok (some (a, d))) :
    p.andThen k c = ⟨(p c).events ++ (k a d).events, (k a d).result⟩ := by
  show p c >>= _ = _
  rw [Run.bind_of_ok h]

/-- A part followed by a value computed from its own reports the part's events and maps the
    values of its matches. -/
theorem andThen_yield (f : Value → Value) :
    (p.andThen fun b => yield (f b)) c =
      ⟨(p c).events, (p c).result.map (Option.map fun x => (f x.1, x.2))⟩ :=
  Run.bind_eq_map fun o => by rcases o with _ | ⟨b, e⟩ <;> rfl

/-- The pair of a first value with each match of a second part, at the cursor it left. -/
def pairWith (a : Value) : Outcome → Outcome := Option.map fun x => (.pair a x.1, x.2)

theorem seq_of_noMatch (h : (p c).result = .ok none) : seq p q c = ⟨(p c).events, .ok none⟩ :=
  andThen_of_noMatch h

theorem seq_of_stop {s : Stop} (h : (p c).result = .error s) :
    seq p q c = ⟨(p c).events, .error s⟩ :=
  andThen_of_stop h

/-- After a match of its first part, a sequence gives the second part's run, its matches
    paired with the first value. -/
theorem seq_of_match {a : Value} {d : Cursor Element} (h : (p c).result = .ok (some (a, d))) :
    seq p q c = ⟨(p c).events ++ (q d).events, (q d).result.map (pairWith a)⟩ := by
  rw [seq, andThen_of_match h, andThen_yield]
  rfl

/-- A match of a sequence is a match of its first part, then one of its second from the cursor
    the first left; its value is the pair of theirs. -/
theorem seq_ok {v : Value} {r : Cursor Element} (h : (seq p q c).result = .ok (some (v, r))) :
    ∃ a d b, (p c).result = .ok (some (a, d)) ∧ (q d).result = .ok (some (b, r)) ∧
      v = .pair a b := by
  obtain ⟨o, hpc, h⟩ := Run.bind_eq_ok.mp h
  rcases o with _ | ⟨a, d⟩
  · cases h
  · obtain ⟨o', hqd, h⟩ := Run.bind_eq_ok.mp h
    rcases o' with _ | ⟨b, e⟩
    · cases h
    · cases h
      exact ⟨a, d, b, hpc, hqd, rfl⟩

theorem seqLeft_of_noMatch (h : (p c).result = .ok none) :
    seqLeft p q c = ⟨(p c).events, .ok none⟩ :=
  andThen_of_noMatch h

theorem seqLeft_of_stop {s : Stop} (h : (p c).result = .error s) :
    seqLeft p q c = ⟨(p c).events, .error s⟩ :=
  andThen_of_stop h

/-- After a match of its first part, a sequence that keeps the first value gives the second
    part's run, each of its matches with the first value. -/
theorem seqLeft_of_match {a : Value} {d : Cursor Element}
    (h : (p c).result = .ok (some (a, d))) :
    seqLeft p q c =
      ⟨(p c).events ++ (q d).events, (q d).result.map (Option.map fun x => (a, x.2))⟩ := by
  rw [seqLeft, andThen_of_match h, andThen_yield]

/-- A transformation that never faults maps the values of its parser's matches. -/
theorem map_ok_eq (g : Value → Value) :
    map p (fun v => .ok (g v)) c =
      ⟨(p c).events, (p c).result.map (Option.map fun x => (g x.1, x.2))⟩ :=
  Run.bind_eq_map fun o => by rcases o with _ | ⟨a, d⟩ <;> rfl

/-- A match of a parser transformed by a function that never faults is a match of the parser,
    its value transformed. -/
theorem match_of_map_ok {g : Value → Value} {v : Value} {r : Cursor Element}
    (h : (map p (fun v => .ok (g v)) c).result = .ok (some (v, r))) :
    ∃ w, (p c).result = .ok (some (w, r)) ∧ v = g w := by
  rw [map_ok_eq] at h
  cases hpc : (p c).result with
  | error s =>
    rw [hpc] at h
    cases h
  | ok o =>
    rw [hpc] at h
    rcases o with _ | ⟨w, e⟩
    · cases h
    · cases h
      exact ⟨w, rfl, rfl⟩

/-- The match of a first branch, tagged as the left one. -/
def tagLeft : Outcome → Outcome := Option.map fun x => (.left x.1, x.2)

/-- The match of a second branch, tagged as the right one. -/
def tagRight : Outcome → Outcome := Option.map fun x => (.right x.1, x.2)

/-- A choice whose first branch matches takes it, and reports its events. -/
theorem alt_of_match {a : Value} {d : Cursor Element} (h : (p c).result = .ok (some (a, d))) :
    alt p q c = ⟨(p c).events, .ok (some (.left a, d))⟩ := by
  show p c >>= _ = _
  rw [Run.bind_of_ok h]
  simp

theorem alt_of_stop {s : Stop} (h : (p c).result = .error s) :
    alt p q c = ⟨(p c).events, .error s⟩ := by
  show p c >>= _ = _
  rw [Run.bind_of_error h]

/-- A choice whose first branch does not match runs its second branch from the same cursor. -/
theorem alt_of_noMatch (h : (p c).result = .ok none) :
    alt p q c = ⟨(p c).events ++ (q c).events, (q c).result.map tagRight⟩ := by
  show p c >>= _ = _
  rw [Run.bind_of_ok h]
  -- the second branch's run, followed by its tagged match
  rw [Run.bind_eq_map (f := tagRight) fun o => by rcases o with _ | ⟨b, e⟩ <;> rfl]

/-- A match of a choice is a match of its first branch, tagged left, or, where the first branch
    does not match, a match of its second from the same cursor, tagged right. -/
theorem alt_ok {v : Value} {r : Cursor Element} (h : (alt p q c).result = .ok (some (v, r))) :
    (∃ a, (p c).result = .ok (some (a, r)) ∧ v = .left a) ∨
      ((p c).result = .ok none ∧ ∃ b, (q c).result = .ok (some (b, r)) ∧ v = .right b) := by
  obtain ⟨o, hpc, h⟩ := Run.bind_eq_ok.mp h
  rcases o with _ | ⟨a, d⟩
  · obtain ⟨o', hqc, h⟩ := Run.bind_eq_ok.mp h
    rcases o' with _ | ⟨b, e⟩
    · cases h
    · cases h
      exact .inr ⟨hpc, b, hqc, rfl⟩
  · cases h
    exact .inl ⟨a, hpc, rfl⟩

/-- Parsers equal from every cursor on `s` approximate each other there. -/
theorem ApproxOn.of_eqOn {s : Array Element} {p q : Parser}
    (h : ∀ c : Cursor Element, c.source = s → p c = q c) : ApproxOn s p q := by
  intro c hc
  rw [h c hc]
  exact .refl _

end Parser

/-! ## Grammars compose -/

namespace Grammar

variable {rules : Rules}

/-- At every depth, a grammar reads its references as references run at the same depth. -/
theorem runWith_eq_eval (k : Nat) (A : List (String × Nat)) (g : Grammar) :
    runWith rules k A g = g.eval fun name => runWith rules k A (.ref name) := by
  cases k <;> rfl

/-- The depth of a run depends on the source of its cursor alone. -/
theorem depth_eq_of_source {c d : Cursor Element} (h : d.source = c.source) :
    depth rules d = depth rules c := by
  show rules.length * (d.source.size + 1) = rules.length * (c.source.size + 1)
  rw [h]

/-- A grammar's run is its tree read over the runs of its references. -/
theorem run_eq_eval (g : Grammar) :
    g.run rules = g.eval fun name => (Grammar.ref name).run rules := by
  funext c
  -- on `c`'s source, a reference run at `c`'s depth is the reference's own run
  have hE : ∀ name (d : Cursor Element), d.source = c.source →
      runWith rules (depth rules c) [] (.ref name) d = (Grammar.ref name).run rules d := by
    intro name d hd
    show _ = runWith rules (depth rules d) [] (.ref name) d
    rw [depth_eq_of_source hd]
  have hs : ∀ name, Parser.Keeps Cursor.SameSource ((Grammar.ref name).run rules) :=
    fun name => run_sameSource rules (.ref name)
  have hs' : ∀ name,
      Parser.Keeps Cursor.SameSource (runWith rules (depth rules c) [] (.ref name)) :=
    fun name => runWith_sameSource _ _ _
  show runWith rules (depth rules c) [] g c = _
  rw [runWith_eq_eval]
  exact Parser.ApproxOn.antisymm
    (eval_approxOn (fun name => .of_eqOn (hE name)) hs' g)
    (eval_approxOn (fun name => .of_eqOn fun d hd => (hE name d hd).symm) hs g) rfl

theorem run_endOfInput : Grammar.endOfInput.run rules = Parser.endOfInput := by
  rw [run_eq_eval]
  rfl

theorem run_seq (p q : Grammar) :
    (Grammar.seq p q).run rules = Parser.seq (p.run rules) (q.run rules) := by
  rw [run_eq_eval (.seq p q), run_eq_eval p, run_eq_eval q]
  rfl

theorem run_seqLeft (p q : Grammar) :
    (Grammar.seqLeft p q).run rules = Parser.seqLeft (p.run rules) (q.run rules) := by
  rw [run_eq_eval (.seqLeft p q), run_eq_eval p, run_eq_eval q]
  rfl

theorem run_seqRight (p q : Grammar) :
    (Grammar.seqRight p q).run rules = Parser.seqRight (p.run rules) (q.run rules) := by
  rw [run_eq_eval (.seqRight p q), run_eq_eval p, run_eq_eval q]
  rfl

theorem run_between (l p r : Grammar) :
    (Grammar.between l p r).run rules =
      Parser.between (l.run rules) (p.run rules) (r.run rules) := by
  rw [run_eq_eval (.between l p r), run_eq_eval l, run_eq_eval p, run_eq_eval r]
  rfl

theorem run_map (p : Grammar) (f : Transform) :
    (Grammar.map p f).run rules = Parser.map (p.run rules) f.apply := by
  rw [run_eq_eval (.map p f), run_eq_eval p]
  rfl

theorem run_accept (e : Element) : (Grammar.accept e).run rules = Parser.accept e := by
  rw [run_eq_eval]
  rfl

theorem run_literal (s : String) : (Grammar.literal s).run rules = Parser.literal s := by
  rw [run_eq_eval]
  rfl

theorem run_alt (p q : Grammar) :
    (Grammar.alt p q).run rules = Parser.alt (p.run rules) (q.run rules) := by
  rw [run_eq_eval (.alt p q), run_eq_eval p, run_eq_eval q]
  rfl

theorem run_many (p : Grammar) : (Grammar.many p).run rules = Parser.many (p.run rules) := by
  rw [run_eq_eval (.many p), run_eq_eval p]
  rfl

theorem run_many1 (p : Grammar) : (Grammar.many1 p).run rules = Parser.many1 (p.run rules) := by
  rw [run_eq_eval (.many1 p), run_eq_eval p]
  rfl

end Grammar

end Descent
