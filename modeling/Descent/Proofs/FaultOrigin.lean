import Descent.Proofs.Report
import Descent.Proofs.Reachable
import Descent.Session.Answer

/-! # Where faults come from

    A run stops with a fault in two places of the library: a transformation given a value it
    does not take, and a cursor stepped past its end. Parsers step past the head in four
    places: the tests of one element (any element, a given element, an element that passes a
    predicate) and literals, at each of their characters. Each looks at the head first and
    steps only where there is one, and there the step succeeds (`Parser.tail_of_head?`), so
    none of them ever stops. So every fault of a run is raised by a transformation of the
    grammar or of its rules (`Grammar.runWith_faults_in_transforms`), and no transformation
    raises the fault of a step past the end.

    Stepping past the end happens only where a session asks for it: the `tail` step of a
    script, which stops the script exactly when the cursor is empty and otherwise moves it as
    `try_tail` does, and the starting offset of a parse, which stops exactly when it is more
    than the elements of the input.
-/

namespace Descent

/-! ## Transformations never step past the end -/

namespace Transform

theorem readDecimal_ne_atEnd (s : String) (e : AtEnd) : readDecimal s ≠ .error (.atEnd e) := by
  unfold readDecimal
  dsimp only
  split
  · simp
  · split <;> simp

theorem checked_ne_atEnd (t : Transform) (n : Int) (e : AtEnd) :
    checked t n ≠ .error (.atEnd e) := by
  unfold checked
  split <;> simp

theorem foldChecked_ne_atEnd (t : Transform) (op : Int → Int → Int) (e : AtEnd) :
    ∀ acc ns, foldChecked t op acc ns ≠ .error (.atEnd e) := by
  intro acc ns
  induction ns generalizing acc with
  | nil => simp [foldChecked]
  | cons n ns ih =>
    rw [foldChecked]
    split
    · exact ih _
    · simp

theorem fold_ne_atEnd (t : Transform) (op : Int → Int → Int) (acc : Int) (items : List Value)
    (e : AtEnd) : fold t op acc items ≠ .error (.atEnd e) := by
  unfold fold
  split
  · exact foldChecked_ne_atEnd t op e acc _
  · simp

/-- No transformation raises the fault of a step past the end. -/
theorem apply_ne_atEnd (t : Transform) (v : Value) (e : AtEnd) :
    t.apply v ≠ .error (.atEnd e) := by
  unfold apply
  -- the transformations that read a value's text or length first have a second match
  split <;> (try split) <;>
    simp [readDecimal_ne_atEnd, checked_ne_atEnd, fold_ne_atEnd]

end Transform

/-! ## The faults of a run -/

/-- The report of a run whose fault, if it stopped with one, satisfies `F`. -/
def FaultsIn (F : Fault → Prop) : List Event → Option Stop → Prop
  | _, some (.fault f) => F f
  | _, _ => True

/-- Whether a report's fault satisfies `F` does not depend on its events. -/
theorem faultsIn_events {F : Fault → Prop} {w : List Event} (w' : List Event) {o : Option Stop}
    (h : FaultsIn F w o) : FaultsIn F w' o := by
  rcases o with _ | (f | _) <;> exact h

theorem faultsIn_law (F : Fault → Prop) : ReportLaw (FaultsIn F) where
  nil := trivial
  diverges := trivial
  append _ hw' := faultsIn_events _ hw'

theorem faultsIn_traced (F : Fault → Prop) (label : String) : TracedLaw (FaultsIn F) label :=
  fun _ _ _ hw => faultsIn_events _ hw

/-- A transformation whose faults all satisfy `F` keeps the law. -/
theorem faultsIn_fault {F : Fault → Prop} {f : Value → Except Fault Value}
    (h : ∀ v e, f v = .error e → F e) : FaultLaw (FaultsIn F) f := h

namespace Grammar

/-- Every fault of a run, at every depth and with any expansions under way, is raised by a
    transformation of the grammar or of one of the rules, on some value. -/
theorem runWith_faults_in_transforms (rules : Rules) (k : Nat) (A : List (String × Nat))
    (g : Grammar) : Parser.Reports (FaultsIn fun f => ∃ t v,
      (t ∈ g.transforms ∨ ∃ name h, (name, h) ∈ rules ∧ t ∈ h.transforms) ∧
        t.apply v = .error f) (runWith rules k A g) :=
  runWith_reports (faultsIn_law _) (fun _ _ _ label _ => faultsIn_traced _ label)
    (fun name h hmem t ht => faultsIn_fault fun v _ he => ⟨t, v, .inr ⟨name, h, hmem, ht⟩, he⟩)
    k A g (fun label _ => faultsIn_traced _ label)
    fun t ht => faultsIn_fault fun v _ he => ⟨t, v, .inl ht, he⟩

end Grammar

/-! ## Steps past the end -/

namespace Cursor

/-- Stepping `k` times from `c` reaches the position `k` further on when the source has it,
    and otherwise fails at the end of the source. -/
theorem advanceBy_eq (k : Nat) :
    ∀ c : Cursor Element,
      (c.position + k ≤ c.source.size →
        ∃ d, c.advanceBy k = .ok d ∧ d.source = c.source ∧ d.position = c.position + k) ∧
      (c.source.size < c.position + k → c.advanceBy k = .error ⟨c.source.size⟩) := by
  induction k with
  | zero => exact fun c => ⟨fun _ => ⟨c, rfl, rfl, rfl⟩, fun h => absurd h (by
      have := c.position_le
      omega)⟩
  | succ k ih =>
    intro c
    by_cases hend : c.position = c.source.size
    · -- at the end, the first step fails, and reports the end's position
      have herr : c.advance = .error ⟨c.position⟩ := (advance_eq_error_iff c).2 hend
      refine ⟨fun h => absurd h (by omega), fun _ => ?_⟩
      rw [advanceBy, herr, hend]
    · obtain ⟨d, hd, hs, hp⟩ := advance_of_ne hend
      obtain ⟨hok, herr⟩ := ih d
      rw [hs, hp] at hok herr
      refine ⟨fun h => ?_, fun h => ?_⟩
      · obtain ⟨e, he, hes, hep⟩ := hok (by omega)
        refine ⟨e, ?_, hes, by omega⟩
        rw [advanceBy, hd]
        exact he
      · rw [advanceBy, hd]
        exact herr (by omega)

end Cursor

/-- Runs raise no fault of their own, and steps past the end happen only where a session
    asks for one. Where a cursor has a head, the step past it succeeds; the parsers that step
    past the head (a predicate on one element, any element, a given element, a literal) look
    at it first, so they never stop and report nothing. Every fault of a run of a grammar, at
    every depth, is raised by a transformation of the grammar or of one of the rules on some
    value, and it is never the fault of a step past the end. The `tail` step of a script
    stops the script, with a panic that names the cursor's position, exactly when the cursor
    is empty; otherwise it moves the cursor one element on, where `try_tail` moves it, and
    the script goes on alike from there. Stepping `k` times from the start of a source
    fails exactly when `k` is more than its elements, and then at the end of the source. -/
theorem runs_fault_only_in_transforms (rules : Rules) :
    (∀ (c : Cursor Element) e, c.head? = some e →
      ∃ d, c.advance = .ok d ∧ Parser.tail c = pure d) ∧
    (∀ ok (c : Cursor Element), ∃ o, Parser.satisfy ok c = pure o) ∧
    (∀ c : Cursor Element, ∃ o, Parser.any c = pure o) ∧
    (∀ e (c : Cursor Element), ∃ o, Parser.accept e c = pure o) ∧
    (∀ s (c : Cursor Element), ∃ o, Parser.literal s c = pure o) ∧
    (∀ k A (g : Grammar) c f, (Grammar.runWith rules k A g c).result = .error (.fault f) →
      (∀ e, f ≠ .atEnd e) ∧ ∃ t v,
        (t ∈ g.transforms ∨ ∃ name h, (name, h) ∈ rules ∧ t ∈ h.transforms) ∧
          t.apply v = .error f) ∧
    (∀ (req : Request) steps (s : Session),
      (s.cursor.isEmpty = true ∧ req.play (.tail :: steps) s =
        ([Json.ofFields [("error", .str "panic"), ("message",
          .str ("already at end of input (position " ++ toString s.cursor.position ++ ")"))]],
          [], .stopped (.fault (.atEnd ⟨s.cursor.position⟩)))) ∨
      (s.cursor.isEmpty = false ∧ ∃ d, s.cursor.advance = .ok d ∧
        d.source = s.cursor.source ∧ d.position = s.cursor.position + 1 ∧
        req.play (.tail :: steps) s = (entry .null d.position ::
          (req.play steps { s with cursor := d }).1, (req.play steps { s with cursor := d }).2) ∧
        req.play (.tryTail :: steps) s = (entry (Json.ofFields [("ok", .bool true)]) d.position ::
          (req.play steps { s with cursor := d }).1, (req.play steps { s with cursor := d }).2))) ∧
    (∀ (s : Array Element) k, (k ≤ s.size → ∃ d, (Cursor.start s).advanceBy k = .ok d ∧
        d.source = s ∧ d.position = k) ∧
      (s.size < k → (Cursor.start s).advanceBy k = .error ⟨s.size⟩)) := by
  refine ⟨fun c e hh => ?_, fun ok c => ⟨_, Parser.satisfy_eq ok c⟩,
    fun c => ⟨_, Parser.satisfy_eq _ c⟩, fun e c => ⟨_, Parser.satisfy_eq _ c⟩,
    fun s c => ⟨_, Parser.literal_eq s c⟩, fun k A g c f hf => ?_, fun req steps s => ?_,
    fun s k => ?_⟩
  · obtain ⟨d, -, hd, ht⟩ := Parser.tail_of_head? hh
    exact ⟨d, hd, ht⟩
  · have hrep := Grammar.runWith_faults_in_transforms rules k A g c
    unfold Run.Reports at hrep
    rw [hf] at hrep
    obtain ⟨t, v, ht, hv⟩ := hrep
    refine ⟨fun e he => Transform.apply_ne_atEnd t v e (he ▸ hv), t, v, ht, hv⟩
  · by_cases he : s.cursor.isEmpty = true
    · -- an empty cursor fails to step, at its own position
      have herr : s.cursor.advance = .error ⟨s.cursor.position⟩ :=
        (Cursor.advance_eq_error_iff _).2 ((Cursor.isEmpty_iff _).1 he)
      left
      refine ⟨he, ?_⟩
      rw [Request.play, herr]
      rfl
    · obtain ⟨d, hd, hs, hp⟩ := Cursor.advance_of_ne (mt (Cursor.isEmpty_iff _).2 he)
      right
      refine ⟨by simpa using he, d, hd, hs, hp, ?_, ?_⟩
      · rw [Request.play, hd]
      · rw [Request.play, hd]
  · obtain ⟨hok, herr⟩ := Cursor.advanceBy_eq k (Cursor.start s)
    simp only [Cursor.start_source, Cursor.start_position, Nat.zero_add] at hok herr
    exact ⟨hok, herr⟩

/-- The head of a one-element input is there, and the step past it succeeds; `digit_value`
    on the letter `a` faults inside the run, with the fault of the transformation; two steps
    from the start of a one-element input fail at its end. -/
theorem runs_fault_only_in_transforms_digit :
    (Cursor.start #[Element.char 'a']).head? = some (.char 'a') ∧
      (∃ d, (Cursor.start #[Element.char 'a']).advance = .ok d ∧
        Parser.tail (Cursor.start #[Element.char 'a']) = pure d) ∧
    (Grammar.runWith [] 1 [] (.map .any .digitValue) (Cursor.start #[Element.char 'a'])).result =
        .error (.fault .notDigit) ∧
      ((∀ e, Fault.notDigit ≠ .atEnd e) ∧ ∃ t v,
        (t ∈ (Grammar.map .any .digitValue).transforms ∨
          ∃ name h, (name, h) ∈ ([] : Rules) ∧ t ∈ h.transforms) ∧
            t.apply v = .error .notDigit) ∧
      (#[Element.char 'a'] : Array Element).size < 2 ∧
      (Cursor.start #[Element.char 'a']).advanceBy 2 =
        .error ⟨(#[Element.char 'a'] : Array Element).size⟩ :=
  have hf : (Grammar.runWith [] 1 [] (.map .any .digitValue)
      (Cursor.start #[Element.char 'a'])).result = .error (.fault .notDigit) := rfl
  have hh : (Cursor.start #[Element.char 'a']).head? = some (.char 'a') := rfl
  have hk : (#[Element.char 'a'] : Array Element).size < 2 := by decide
  ⟨hh, (runs_fault_only_in_transforms []).1 _ _ hh, hf,
    (runs_fault_only_in_transforms []).2.2.2.2.2.1 1 [] _ _ _ hf, hk,
    ((runs_fault_only_in_transforms []).2.2.2.2.2.2.2 _ 2).2 hk⟩

end Descent
