import Descent.Proofs.Report
import Descent.Proofs.Consume

/-! # Traces are well bracketed

    A labelled grammar reports an attempt when it starts, and a match or a no-match, at the
    same label and position, when its inner run gives a result. Read as brackets, the
    attempts open and the closing events close: `Trace.scan` reads a trace against the
    attempts still open, innermost first, and fails on an event that closes anything but
    the innermost open attempt. A trace is balanced when it leaves nothing open.

    Every run of a grammar reports a bracketed trace (`Trace.Bracketed`): a run that gives a
    result leaves no attempt open, and a run that stops leaves open exactly the labelled
    grammars whose inner runs it stopped inside, each still waiting for its close. Closing
    them, innermost first, completes the trace to a balanced one.
-/

namespace Descent

namespace Trace

/-- Read events against the attempts still open, innermost first: an attempt opens, and a
    match or a no-match closes the innermost open attempt, which must have its label and
    position. `none` when an event closes anything else. -/
def scan : List (String × Nat) → List Event → Option (List (String × Nat))
  | S, [] => some S
  | S, .attempt label p :: w => scan ((label, p) :: S) w
  | x :: S, .matched label p _ :: w => if x = (label, p) then scan S w else none
  | x :: S, .noMatch label p :: w => if x = (label, p) then scan S w else none
  | [], .matched .. :: _ => none
  | [], .noMatch .. :: _ => none

/-- A balanced trace: read from nothing open, it leaves nothing open. -/
def Balanced (w : List Event) : Prop := scan [] w = some []

instance : DecidablePred Balanced := fun w => inferInstanceAs (Decidable (scan [] w = some []))

/-- The events that close the open attempts `S`, innermost first, each with no match. -/
def closeAll (S : List (String × Nat)) : List Event := S.map fun x => .noMatch x.1 x.2

/-- The bracketing a run's report must have: a result leaves no attempt open; a stop may
    leave some open. -/
def Bracketed : List Event → Option Stop → Prop
  | w, none => scan [] w = some []
  | w, some _ => ∃ S, scan [] w = some S

/-! ## Reading traces -/

/-- Reading two traces one after the other reads the second from what the first left open. -/
theorem scan_append (S : List (String × Nat)) (w v : List Event) :
    scan S (w ++ v) = (scan S w).bind fun S' => scan S' v := by
  induction w generalizing S with
  | nil => rfl
  | cons e w ih =>
    cases e with
    | attempt label p => exact ih _
    | matched label p n =>
      cases S with
      | nil => rfl
      | cons x S =>
        simp only [List.cons_append, scan]
        split
        · exact ih S
        · rfl
    | noMatch label p =>
      cases S with
      | nil => rfl
      | cons x S =>
        simp only [List.cons_append, scan]
        split
        · exact ih S
        · rfl

/-- Attempts open beneath the ones a trace reads are left as they were. -/
theorem scan_stack {S S' : List (String × Nat)} {w : List Event} (h : scan S w = some S')
    (T : List (String × Nat)) : scan (S ++ T) w = some (S' ++ T) := by
  induction w generalizing S with
  | nil =>
    cases h
    rfl
  | cons e w ih =>
    cases e with
    | attempt label p => exact ih (S := (label, p) :: S) h
    | matched label p n =>
      cases S with
      | nil => cases h
      | cons x S =>
        rw [List.cons_append]
        simp only [scan] at h ⊢
        split at h
        · rw [if_pos ‹_›]
          exact ih h
        · cases h
    | noMatch label p =>
      cases S with
      | nil => cases h
      | cons x S =>
        rw [List.cons_append]
        simp only [scan] at h ⊢
        split at h
        · rw [if_pos ‹_›]
          exact ih h
        · cases h

/-- The closing event of a labelled parser that gave a result closes its own attempt. -/
theorem scan_closing (S : List (String × Nat)) (label : String) (c : Cursor Element)
    (o : Outcome) : scan ((label, c.position) :: S) (Event.closing label c (.ok o)) = some S := by
  rcases o with _ | ⟨v, d⟩ <;> simp [Event.closing, scan]

/-- Closing every open attempt, innermost first, leaves nothing open. -/
theorem scan_closeAll (S : List (String × Nat)) : scan S (closeAll S) = some [] := by
  induction S with
  | nil => rfl
  | cons x S ih =>
    simp only [closeAll, List.map_cons, scan] at ih ⊢
    exact ih

/-- A trace that leaves the attempts `S` open begins a balanced trace: the one that closes
    them, innermost first. -/
theorem balanced_append_closeAll {w : List Event} {S : List (String × Nat)}
    (h : scan [] w = some S) : Balanced (w ++ closeAll S) := by
  rw [Balanced, scan_append, h]
  exact scan_closeAll S

/-- An attempt opened before a trace stays open, beneath what the trace leaves open. -/
theorem scan_attempt {w : List Event} {S : List (String × Nat)} (h : scan [] w = some S)
    (label : String) (p : Nat) : scan [] (.attempt label p :: w) = some (S ++ [(label, p)]) :=
  scan_stack (S := []) h [(label, p)]

/-! ## Runs report bracketed traces -/

theorem bracketed_law : ReportLaw Bracketed where
  nil := rfl
  diverges := ⟨[], rfl⟩
  append {w w' o} hw hw' := by
    cases o with
    | none =>
      show scan [] (w ++ w') = some []
      rw [scan_append, show scan [] w = some [] from hw]
      exact hw'
    | some s =>
      obtain ⟨S, hS⟩ := hw'
      refine ⟨S, ?_⟩
      rw [scan_append, show scan [] w = some [] from hw]
      exact hS

/-- A labelled parser brackets its inner run's events with its attempt and its closing
    event. -/
theorem bracketed_traced (label : String) : TracedLaw Bracketed label := by
  intro c w x hw
  cases x with
  | ok o =>
    -- the inner events leave nothing open above the attempt, which the closing event closes
    have hinner : scan [(label, c.position)] w = some [(label, c.position)] :=
      scan_stack (S := []) (show scan [] w = some [] from hw) _
    show scan [(label, c.position)] (w ++ Event.closing label c (.ok o)) = some []
    rw [scan_append, hinner]
    exact scan_closing [] label c o
  | error s =>
    obtain ⟨S, hS⟩ := hw
    refine ⟨S ++ [(label, c.position)], ?_⟩
    simp only [Event.closing, List.append_nil]
    exact scan_attempt hS label c.position

theorem bracketed_fault (f : Value → Except Fault Value) : FaultLaw Bracketed f :=
  fun _ _ _ => ⟨[], rfl⟩

/-- A bracketed report leaves some attempts open, none after a result, and closing them
    balances it. -/
theorem Bracketed.open_attempts {w : List Event} {o : Option Stop} (h : Bracketed w o) :
    ∃ S, scan [] w = some S ∧ (o = none → S = []) ∧ Balanced (w ++ closeAll S) := by
  cases o with
  | none => exact ⟨[], h, fun _ => rfl, balanced_append_closeAll h⟩
  | some s =>
    obtain ⟨S, hS⟩ := h
    exact ⟨S, hS, fun h => (Option.some_ne_none s h).elim, balanced_append_closeAll hS⟩

end Trace

/-- What is left after a forward move is what was left before, less the elements between the
    two positions. -/
theorem Cursor.Forward.rest_eq_drop {c d : Cursor Element} (h : Cursor.Forward c d) :
    d.rest = c.rest.drop (d.position - c.position) := by
  simp only [Cursor.rest, h.1, List.drop_drop]
  congr 1
  have := h.2
  omega

namespace Grammar

/-- Every run of a grammar reports a bracketed trace, at every depth and with any expansions
    under way. -/
theorem runWith_bracketed (rules : Rules) (k : Nat) (A : List (String × Nat)) (g : Grammar) :
    Parser.Reports Trace.Bracketed (runWith rules k A g) :=
  runWith_reports Trace.bracketed_law (fun _ _ _ label _ => Trace.bracketed_traced label)
    (fun _ _ _ t _ => Trace.bracketed_fault t.apply) k A g
    (fun label _ => Trace.bracketed_traced label) fun t _ => Trace.bracketed_fault t.apply

/-- A labelled grammar runs as the labelled parser of its inner grammar. -/
theorem runWith_traced (rules : Rules) (k : Nat) (A : List (String × Nat)) (p : Grammar)
    (label : String) : runWith rules k A (.traced p label) = Parser.traced (runWith rules k A p) label := by
  cases k <;> rfl

/-- A match of a grammar without `rewind` reads forward, so the closing event of a labelled
    grammar around it counts exactly the elements it consumed. -/
theorem closing_of_rewindFree {rules : Rules} {p : Grammar} (hp : RewindFree rules p)
    (k : Nat) (A : List (String × Nat)) (label : String) {c r : Cursor Element} {v : Value}
    (h : (runWith rules k A p c).result = .ok (some (v, r))) :
    ∃ n, Event.closing label c (.ok (some (v, r))) = [.matched label c.position n] ∧
      c.rest = c.rest.take n ++ r.rest ∧ r.remaining + n = c.remaining := by
  have hf := runWith_forward k A hp c v r h
  refine ⟨r.position - c.position, rfl, ?_, ?_⟩
  · rw [hf.rest_eq_drop, List.take_append_drop]
  · have := r.position_le
    have := hf.2
    simp only [Cursor.remaining, hf.1] at *
    omega

/-- Runs of grammars report well-bracketed traces. Every run leaves open a list of attempts,
    none when it gives a result, and closing them, innermost first, makes its trace balanced.
    A labelled grammar reports its attempt at its cursor's position, then its inner run's
    events, then, when the inner run gives a result, one event that closes the attempt: a
    match with the elements consumed from the position, or no match. When the inner run
    stops, the attempt stays open beneath what the inner run left open, so the attempts a
    stopped run leaves open are those of the labelled grammars it stopped inside. Around a
    grammar without `rewind`, the elements a match counts are exactly those it read. -/
theorem runWith_trace_bracketed (rules : Rules) (k : Nat) (A : List (String × Nat)) :
    (∀ g c, ∃ S, Trace.scan [] (runWith rules k A g c).events = some S ∧
      (∀ o, (runWith rules k A g c).result = .ok o → S = []) ∧
      Trace.Balanced ((runWith rules k A g c).events ++ Trace.closeAll S)) ∧
    (∀ p label c, runWith rules k A (.traced p label) c =
      ⟨.attempt label c.position :: ((runWith rules k A p c).events ++
        Event.closing label c (runWith rules k A p c).result), (runWith rules k A p c).result⟩) ∧
    (∀ p label c s S, (runWith rules k A p c).result = .error s →
      Trace.scan [] (runWith rules k A p c).events = some S →
      Trace.scan [] (runWith rules k A (.traced p label) c).events =
        some (S ++ [(label, c.position)])) ∧
    (∀ p label c v r, RewindFree rules p → (runWith rules k A p c).result = .ok (some (v, r)) →
      ∃ n, Event.closing label c (.ok (some (v, r))) = [.matched label c.position n] ∧
        c.rest = c.rest.take n ++ r.rest ∧ r.remaining + n = c.remaining) := by
  have htraced : ∀ p label c, runWith rules k A (.traced p label) c =
      ⟨.attempt label c.position :: ((runWith rules k A p c).events ++
        Event.closing label c (runWith rules k A p c).result), (runWith rules k A p c).result⟩ :=
    fun p label c => by rw [runWith_traced, Parser.traced_eq]
  refine ⟨fun g c => ?_, htraced, fun p label c s S hs hS => ?_,
    fun p label c v r hp h => closing_of_rewindFree hp k A label h⟩
  · obtain ⟨S, hS, hnone, hbal⟩ := (runWith_bracketed rules k A g c).open_attempts
    exact ⟨S, hS, fun o ho => hnone (by rw [ho]; rfl), hbal⟩
  · -- a stopped inner run gets no closing event
    rw [htraced, hs]
    show Trace.scan [] (.attempt label c.position :: ((runWith rules k A p c).events ++ [])) = _
    rw [List.append_nil]
    exact Trace.scan_attempt hS label c.position

/-- A labelled `map any digit_value` on `a`: the transformation faults inside the labelled
    grammar, whose attempt stays open; around `any`, the match counts the one element read. -/
theorem runWith_trace_bracketed_digit :
    (runWith [] 1 [] (.map .any .digitValue) (Cursor.start #[Element.char 'a'])).result =
        .error (.fault .notDigit) ∧
      Trace.scan [] (runWith [] 1 [] (.map .any .digitValue) (Cursor.start #[Element.char 'a'])).events =
        some [] ∧
      Trace.scan [] (runWith [] 1 [] (.traced (.map .any .digitValue) "d")
        (Cursor.start #[Element.char 'a'])).events = some ([] ++ [("d", (Cursor.start #[Element.char 'a']).position)]) ∧
      RewindFree [] .any ∧
      (runWith [] 1 [] .any (Cursor.start #[Element.char 'a'])).result =
        .ok (some (.char 'a', ⟨#[Element.char 'a'], 1, by decide⟩)) ∧
      ∃ n, Event.closing "d" (Cursor.start #[Element.char 'a'])
          (.ok (some (.char 'a', ⟨#[Element.char 'a'], 1, by decide⟩))) =
            [.matched "d" (Cursor.start #[Element.char 'a']).position n] ∧
        (Cursor.start #[Element.char 'a']).rest = (Cursor.start #[Element.char 'a']).rest.take n ++
          Cursor.rest ⟨#[Element.char 'a'], 1, by decide⟩ ∧
        Cursor.remaining ⟨#[Element.char 'a'], 1, by decide⟩ + n =
          (Cursor.start #[Element.char 'a']).remaining :=
  have hs : (runWith [] 1 [] (.map .any .digitValue) (Cursor.start #[Element.char 'a'])).result =
      .error (.fault .notDigit) := rfl
  have hS : Trace.scan [] (runWith [] 1 [] (.map .any .digitValue)
      (Cursor.start #[Element.char 'a'])).events = some [] := rfl
  have hg : RewindFree [] .any := ⟨rfl, fun _ _ hr _ => by cases hr with
    | ref hn => cases hn
    | rule hn _ _ => cases hn⟩
  have hr : (runWith [] 1 [] .any (Cursor.start #[Element.char 'a'])).result =
      .ok (some (.char 'a', ⟨#[Element.char 'a'], 1, by decide⟩)) := rfl
  ⟨hs, hS, (runWith_trace_bracketed [] 1 []).2.2.1 _ "d" _ _ _ hs hS, hg, hr,
    (runWith_trace_bracketed [] 1 []).2.2.2 _ "d" _ _ _ hg hr⟩

end Grammar

end Descent
