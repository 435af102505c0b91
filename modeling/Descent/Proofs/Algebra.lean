import Descent.Proofs.Compose

/-! # The algebra of sequence and choice

    A sequence hands each part the cursor the part before it left, and gives up at the first
    part that does not match. Its four forms (keeping both values, the first, the second, or
    the middle one of three) differ only in the value they keep, so each is a sequence of
    pairs with a projection, and a sequence nested to the left is the same run as one nested
    to the right, up to how its values are paired (`Grammar.run_sequence_algebra`). Each part
    runs once at most, and none after one that does not match (`Parser.seqEvents`).

    A choice tries its branches in order, all from the cursor it was given, and takes the first
    that matches. A choice nested to the left is the same run as one nested to the right, up
    to where the tags stand in the value, and it fails exactly where every branch fails
    (`Grammar.run_alt_assoc`); each branch runs once at most, and none after one that matches
    or stops (`Parser.choiceEvents`).

    A parser is a function of its cursor: run twice from one cursor, it gives the same run
    twice. Hence a choice between two sequences with the same first part is that part
    followed by a choice between the two second parts (`Grammar.run_left_factor`): the two
    match alike, fail alike and stop alike, up to where the tag of the choice stands in the
    value, and the choice of sequences only reads the first part once more, after its first
    branch fails.
-/

namespace Descent

/-- A value of a first part followed by a choice, read as the value of a choice between
    sequences: the choice's tag moves out of the pair. -/
def Value.distrib : Value → Value
  | .pair a (.left b) => .left (.pair a b)
  | .pair a (.right b) => .right (.pair a b)
  | v => v

/-- A value of a sequence whose first part is itself a sequence, read as the value of a first
    part followed by a sequence: `((x, y), z)` becomes `(x, (y, z))`. -/
def Value.reassoc : Value → Value
  | .pair (.pair x y) z => .pair x (.pair y z)
  | v => v

/-- A value of a choice whose first branch is itself a choice, read as the value of a first
    branch or a choice: each tag of the inner choice moves one level to the right. -/
def Value.reassocChoice : Value → Value
  | .left (.left x) => .left x
  | .left (.right y) => .right (.left y)
  | .right z => .right (.right z)
  | v => v

/-- A match with its value changed by `f`, at the same cursor. -/
def Outcome.mapValue (f : Value → Value) : Outcome → Outcome := Option.map fun x => (f x.1, x.2)

namespace Parser

/-! ## Sequences -/

/-- The events of parts run one after another from `c`, each from the cursor the one before it
    left, up to the first that does not match. -/
def seqEvents : List Parser → Cursor Element → List Event
  | [], _ => []
  | p :: ps, c => (p c).events ++
    match (p c).result with
    | .ok (some (_, d)) => seqEvents ps d
    | _ => []

theorem seqEvents_singleton (p : Parser) (c : Cursor Element) :
    seqEvents [p] c = (p c).events := by
  rw [seqEvents]
  split <;> simp [seqEvents]

section Sequences

variable {p q r : Parser} {qs : List Parser}

/-- A part followed by a continuation that reports the events of parts in sequence, from the
    cursor the part left, reports the events of the whole sequence. -/
theorem andThen_events {k : Value → Parser} (hk : ∀ a d, (k a d).events = seqEvents qs d)
    (c : Cursor Element) : (p.andThen k c).events = seqEvents (p :: qs) c := by
  rw [seqEvents]
  cases h : (p c).result with
  | error s =>
    rw [andThen_of_stop h]
    simp
  | ok o =>
    rcases o with _ | ⟨a, d⟩
    · rw [andThen_of_noMatch h]
      simp
    · rw [andThen_of_match h, hk]

/-- A second part followed by a value of its own adds no events of its own. -/
theorem andThen_yield_events (f : Value → Value) (hq : ∀ d, (q d).events = seqEvents qs d)
    (d : Cursor Element) : ((q.andThen fun b => yield (f b)) d).events = seqEvents qs d := by
  rw [andThen_yield]
  exact hq d

theorem seq_events (hq : ∀ d, (q d).events = seqEvents qs d) (c : Cursor Element) :
    (seq p q c).events = seqEvents (p :: qs) c :=
  andThen_events (fun a => andThen_yield_events (.pair a) hq) c

theorem seqLeft_events (hq : ∀ d, (q d).events = seqEvents qs d) (c : Cursor Element) :
    (seqLeft p q c).events = seqEvents (p :: qs) c :=
  andThen_events (fun a => andThen_yield_events (fun _ => a) hq) c

theorem seqRight_events (hq : ∀ d, (q d).events = seqEvents qs d) (c : Cursor Element) :
    (seqRight p q c).events = seqEvents (p :: qs) c :=
  andThen_events (fun _ => hq) c

/-- Three parts in sequence, nested to the right, report the events of the three in turn. -/
theorem seq_seq_events (c : Cursor Element) :
    (seq p (seq q r) c).events = seqEvents [p, q, r] c :=
  seq_events (seq_events fun e => (seqEvents_singleton r e).symm) c

end Sequences

variable (p q r : Parser)

/-- A sequence that keeps its first value is the sequence of pairs, projected on the first. -/
theorem seqLeft_eq_map_fst : seqLeft p q = map (seq p q) Transform.fst.apply := by
  funext c
  show p c >>= _ = (p c >>= _) >>= _
  rw [bind_assoc]
  congr 1
  funext o
  rcases o with _ | ⟨a, d⟩
  · rfl
  · -- `p` matched: both run `q` from where it left, and keep the first value
    show q d >>= _ = (q d >>= _) >>= _
    rw [bind_assoc]
    congr 1
    funext o'
    rcases o' with _ | ⟨b, e⟩ <;> rfl

/-- A sequence that keeps its second value is the sequence of pairs, projected on the second. -/
theorem seqRight_eq_map_snd : seqRight p q = map (seq p q) Transform.snd.apply := by
  funext c
  show p c >>= _ = (p c >>= _) >>= _
  rw [bind_assoc]
  congr 1
  funext o
  rcases o with _ | ⟨a, d⟩
  · rfl
  · -- the second part's run is the run followed by its own match
    show q d = (q d >>= _) >>= _
    rw [bind_assoc, ← bind_pure (q d), bind_assoc]
    congr 1
    funext o'
    rcases o' with _ | ⟨b, e⟩ <;> rfl

/-- Sequence is associative: nested to the right it is the run nested to the left, its values
    paired the other way. -/
theorem seq_assoc : seq p (seq q r) = map (seq (seq p q) r) fun v => .ok v.reassoc := by
  funext c
  simp only [seq, andThen, map, bind_assoc]
  congr 1
  funext o
  rcases o with _ | ⟨a, d⟩
  · rfl
  · -- `p` matched: both run `q` from where it left
    simp only [bind_assoc]
    congr 1
    funext o'
    rcases o' with _ | ⟨b, e⟩
    · rfl
    · -- `q` matched too: both run `r` from there, and pair the three values their own way
      simp only [yield, pure_bind, bind_assoc]
      congr 1
      funext o''
      rcases o'' with _ | ⟨z, f⟩ <;> rfl

/-- A part between two others reports the events of the three in turn. -/
theorem between_events (c : Cursor Element) :
    (between p q r c).events = seqEvents [p, q, r] c := by
  rw [between_eq_seqRight]
  exact seqRight_events (seqLeft_events fun e => (seqEvents_singleton r e).symm) c

/-! ## Choices -/

/-- The events of branches tried one after another, all from `c`, up to the first that does not
    fail: one that matches or stops ends the choice. -/
def choiceEvents : List Parser → Cursor Element → List Event
  | [], _ => []
  | p :: ps, c => (p c).events ++
    match (p c).result with
    | .ok none => choiceEvents ps c
    | _ => []

theorem choiceEvents_singleton (c : Cursor Element) : choiceEvents [p] c = (p c).events := by
  rw [choiceEvents]
  split <;> simp [choiceEvents]

section Choices

variable {p q : Parser} {qs : List Parser} {c : Cursor Element}

/-- A choice whose second branch reports the events of branches tried in turn reports the
    events of all of them. -/
theorem alt_events (hq : (q c).events = choiceEvents qs c) :
    (alt p q c).events = choiceEvents (p :: qs) c := by
  rw [choiceEvents]
  cases h : (p c).result with
  | error s =>
    rw [alt_of_stop h]
    simp
  | ok o =>
    rcases o with _ | ⟨a, d⟩
    · rw [alt_of_noMatch h, hq]
    · rw [alt_of_match h]
      simp

/-- A choice fails exactly where both of its branches fail. -/
theorem alt_eq_noMatch_iff :
    (alt p q c).result = .ok none ↔ (p c).result = .ok none ∧ (q c).result = .ok none := by
  cases h : (p c).result with
  | error s =>
    rw [alt_of_stop h]
    simp
  | ok o =>
    rcases o with _ | ⟨a, d⟩
    · rw [alt_of_noMatch h]
      cases (q c).result with
      | error s => simp [Except.map]
      | ok o' => rcases o' with _ | x <;> simp [Except.map, tagRight]
    · rw [alt_of_match h]
      simp

end Choices

/-- Choice is associative: nested to the right it is the run nested to the left, its tags moved
    one level to the right. -/
theorem alt_assoc : alt p (alt q r) = map (alt (alt p q) r) fun v => .ok v.reassocChoice := by
  funext c
  simp only [alt, map, bind_assoc]
  congr 1
  funext o
  rcases o with _ | ⟨a, d⟩
  · -- `p` fails: both try `q`, from the same cursor
    simp only [bind_assoc]
    congr 1
    funext o'
    rcases o' with _ | ⟨b, e⟩
    · -- `q` fails too: both try `r`, still from the same cursor
      simp only [pure_bind, bind_assoc]
      congr 1
      funext o''
      rcases o'' with _ | ⟨z, f⟩ <;> rfl
    · rfl
  · rfl

/-- Three branches, nested to the right, report the events of the branches tried in turn. -/
theorem alt_alt_events (c : Cursor Element) :
    (alt p (alt q r) c).events = choiceEvents [p, q, r] c :=
  alt_events (alt_events (choiceEvents_singleton r c).symm)

/-! ## Left factoring -/

variable (a b c : Parser) (i : Cursor Element)

/-- The choice's tag moved out of the pair of each match. -/
def distribOutcome : Outcome → Outcome := Option.map fun x => (x.1.distrib, x.2)

/-- Left factoring after a match of the common first part, from the cursor `d` it left. -/
theorem alt_seq_seq_of_match {va : Value} {d : Cursor Element}
    (ha : (a i).result = .ok (some (va, d))) :
    (alt (seq a b) (seq a c) i).result = (seq a (alt b c) i).result.map distribOutcome ∧
    ((seq a b i).result ≠ .ok none →
      (alt (seq a b) (seq a c) i).events = (seq a (alt b c) i).events) ∧
    ((seq a b i).result = .ok none → ∃ w,
      (alt (seq a b) (seq a c) i).events = (seq a b i).events ++ (a i).events ++ w ∧
      (seq a (alt b c) i).events = (seq a b i).events ++ w) := by
  have hab := seq_of_match (q := b) ha
  rw [seq_of_match (q := alt b c) ha]
  cases hb : (b d).result with
  | error s =>
    -- `b` stops: both sides stop alike after the events of `a` and `b`
    have hs : (seq a b i).result = .error s := by rw [hab, hb]; rfl
    rw [alt_of_stop hs, hab, alt_of_stop hb, hb]
    simp [Except.map]
  | ok o =>
    rcases o with _ | ⟨vb, r⟩
    · -- `b` fails: the choice of sequences runs `a` again, from `i`, and then `c` from `d`
      have hn : (seq a b i).result = .ok none := by rw [hab, hb]; rfl
      rw [alt_of_noMatch hn, hab, seq_of_match (q := c) ha, alt_of_noMatch hb]
      refine ⟨?_, fun h => absurd (by rw [hb]; rfl) h,
        fun _ => ⟨(c d).events, by simp, by simp⟩⟩
      cases (c d).result with
      | error s => rfl
      | ok o' => rcases o' with _ | x <;> rfl
    · -- `b` matches: both sides take it
      have hm : (seq a b i).result = .ok (some (.pair va vb, r)) := by rw [hab, hb]; rfl
      rw [alt_of_match hm, hab, alt_of_match hb]
      refine ⟨rfl, fun _ => rfl, fun h => ?_⟩
      rw [hb] at h
      cases h

/-- A choice between two sequences with the same first part is that part followed by a choice
    between the second parts, up to the place of the choice's tag; their events differ only
    where the first sequence fails, and there by one more run of the first part. -/
theorem alt_seq_seq :
    (alt (seq a b) (seq a c) i).result = (seq a (alt b c) i).result.map distribOutcome ∧
    ((seq a b i).result ≠ .ok none →
      (alt (seq a b) (seq a c) i).events = (seq a (alt b c) i).events) ∧
    ((seq a b i).result = .ok none → ∃ w,
      (alt (seq a b) (seq a c) i).events = (seq a b i).events ++ (a i).events ++ w ∧
      (seq a (alt b c) i).events = (seq a b i).events ++ w) := by
  cases ha : (a i).result with
  | error s =>
    -- `a` stops: so do both sides, after its events
    have hab := seq_of_stop (q := b) ha
    rw [alt_of_stop (by rw [hab]), hab, seq_of_stop ha]
    simp [Except.map]
  | ok o =>
    rcases o with _ | ⟨va, d⟩
    · -- `a` fails: the choice of sequences runs it once more, for its second branch
      have hab := seq_of_noMatch (q := b) ha
      rw [alt_of_noMatch (by rw [hab]), hab, seq_of_noMatch (q := c) ha,
        seq_of_noMatch (q := alt b c) ha]
      exact ⟨rfl, fun h => absurd rfl h, fun _ => ⟨[], by simp, by simp⟩⟩
    · exact alt_seq_seq_of_match a b c i ha

/-- A match of a first part followed by a choice pairs the first value with a tagged one. -/
theorem seq_alt_value {v : Value} {r : Cursor Element}
    (h : (seq a (alt b c) i).result = .ok (some (v, r))) :
    ∃ va w, v = .pair va (.left w) ∨ v = .pair va (.right w) := by
  obtain ⟨va, d, x, -, hx, rfl⟩ := seq_ok h
  rcases alt_ok hx with ⟨w, -, rfl⟩ | ⟨-, w, -, rfl⟩
  · exact ⟨va, w, .inl rfl⟩
  · exact ⟨va, w, .inr rfl⟩

end Parser

namespace Grammar

/-- The algebra of sequences. A sequence that keeps the first or the second value is the
    sequence of pairs with that projection; a sequence of three nested to the right is the
    one nested to the left with its values paired the other way, `((x, y), z)` read as
    `(x, (y, z))`; and a part between two others is the part after the first, kept before the
    last, taken either way. Each of these is the same run on every cursor: the same events, the
    same stop, and matches at the same cursor. The parts run one after another, each from the
    cursor the part before it left, each once at most, and none after one that does not
    match. -/
theorem run_sequence_algebra (rules : Rules) (a b c : Grammar) :
    (Grammar.seqLeft a b).run rules = (Grammar.map (.seq a b) .fst).run rules ∧
    (Grammar.seqRight a b).run rules = (Grammar.map (.seq a b) .snd).run rules ∧
    (∀ i, (Grammar.seq a (.seq b c)).run rules i =
      ⟨((Grammar.seq (.seq a b) c).run rules i).events,
        ((Grammar.seq (.seq a b) c).run rules i).result.map (Outcome.mapValue Value.reassoc)⟩) ∧
    (Grammar.between a b c).run rules = (Grammar.seqRight a (.seqLeft b c)).run rules ∧
    (Grammar.between a b c).run rules = (Grammar.seqLeft (.seqRight a b) c).run rules ∧
    ∀ i, ((Grammar.seq a b).run rules i).events = Parser.seqEvents [a.run rules, b.run rules] i ∧
      ((Grammar.seq a (.seq b c)).run rules i).events =
        Parser.seqEvents [a.run rules, b.run rules, c.run rules] i ∧
      ((Grammar.between a b c).run rules i).events =
        Parser.seqEvents [a.run rules, b.run rules, c.run rules] i := by
  -- every form is the combinator of parsers over the runs of its parts
  simp only [run_seq, run_seqLeft, run_seqRight, run_between, run_map]
  refine ⟨Parser.seqLeft_eq_map_fst _ _, Parser.seqRight_eq_map_snd _ _, fun i => ?_,
    Parser.between_eq_seqRight _ _ _, Parser.between_eq_seqLeft _ _ _,
    fun i => ⟨?_, Parser.seq_seq_events i, Parser.between_events _ _ _ i⟩⟩
  · rw [Parser.seq_assoc, Parser.map_ok_eq]
    rfl
  · exact Parser.seq_events (fun d => (Parser.seqEvents_singleton _ d).symm) i

/-- Ordered choice is associative. From every cursor `i`, a choice nested to the right is the
    run of the choice nested to the left, with the tags of its value moved: `left (left x)` is
    read as `left x`, `left (right y)` as `right (left y)` and `right z` as `right (right z)`;
    the two have the same events, the same stop and matches at the same cursor. The choice
    fails exactly where all three branches fail, and it tries them in order, each from `i`,
    each once at most, and none after one that matches or stops. -/
theorem run_alt_assoc (rules : Rules) (a b c : Grammar) (i : Cursor Element) :
    (Grammar.alt a (.alt b c)).run rules i =
      ⟨((Grammar.alt (.alt a b) c).run rules i).events,
        ((Grammar.alt (.alt a b) c).run rules i).result.map
          (Outcome.mapValue Value.reassocChoice)⟩ ∧
    (((Grammar.alt (.alt a b) c).run rules i).result = .ok none ↔
      (a.run rules i).result = .ok none ∧ (b.run rules i).result = .ok none ∧
        (c.run rules i).result = .ok none) ∧
    ((Grammar.alt (.alt a b) c).run rules i).events =
      Parser.choiceEvents [a.run rules, b.run rules, c.run rules] i := by
  simp only [run_alt]
  have hassoc : Parser.alt (a.run rules) (Parser.alt (b.run rules) (c.run rules)) i =
      ⟨(Parser.alt (Parser.alt (a.run rules) (b.run rules)) (c.run rules) i).events,
        (Parser.alt (Parser.alt (a.run rules) (b.run rules)) (c.run rules) i).result.map
          (Outcome.mapValue Value.reassocChoice)⟩ := by
    rw [Parser.alt_assoc, Parser.map_ok_eq]
    rfl
  refine ⟨hassoc, ?_, ?_⟩
  · rw [Parser.alt_eq_noMatch_iff, Parser.alt_eq_noMatch_iff, and_assoc]
  · -- the events of the choice nested to the left are those of the one nested to the right
    rw [← Parser.alt_alt_events, hassoc]

/-- Left factoring is sound. From every cursor `i`, a choice between `a` followed by `b` and
    `a` followed by `c` has the outcome of `a` followed by a choice between `b` and `c`, with
    the choice's tag moved out of the pair: a match `(va, left vb)` or `(va, right vc)` of the
    factored side is the match `left (va, vb)` or `right (va, vc)` of the other, with the same
    remainder, and the two fail and stop alike. Their events are the same, except where
    `a` followed by `b` fails: there the choice of sequences runs `a` from `i` once more, and
    reports its events in between. -/
theorem run_left_factor (rules : Rules) (a b c : Grammar) (i : Cursor Element) :
    ((Grammar.alt (.seq a b) (.seq a c)).run rules i).result =
      ((Grammar.seq a (.alt b c)).run rules i).result.map Parser.distribOutcome ∧
    (∀ v r, ((Grammar.seq a (.alt b c)).run rules i).result = .ok (some (v, r)) →
      ∃ va w, v = .pair va (.left w) ∨ v = .pair va (.right w)) ∧
    (((Grammar.seq a b).run rules i).result ≠ .ok none →
      ((Grammar.alt (.seq a b) (.seq a c)).run rules i).events =
        ((Grammar.seq a (.alt b c)).run rules i).events) ∧
    (((Grammar.seq a b).run rules i).result = .ok none → ∃ w,
      ((Grammar.alt (.seq a b) (.seq a c)).run rules i).events =
        ((Grammar.seq a b).run rules i).events ++ (a.run rules i).events ++ w ∧
      ((Grammar.seq a (.alt b c)).run rules i).events =
        ((Grammar.seq a b).run rules i).events ++ w) := by
  simp only [run_alt, run_seq]
  obtain ⟨hres, hsame, hrepeat⟩ := Parser.alt_seq_seq (a.run rules) (b.run rules) (c.run rules) i
  exact ⟨hres, fun v r h => Parser.seq_alt_value _ _ _ i h, hsame, hrepeat⟩

end Grammar

end Descent
