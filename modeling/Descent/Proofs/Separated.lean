import Descent.Proofs.Keep

/-! # Separated lists are items after separators

    A separated list reads one item, then, while a separator and an item after it both
    match, one more item each time. That is the first item followed by a repetition of
    "a separator, then an item", the repetition's values put after the first one. The loop of
    a separated list and the loop of that repetition take the same steps: a step is a
    separator and then an item, it stops the list before a separator that leads to no item,
    and it stops the run as diverging where the step does not move on. The two parsers are
    therefore one (`Parser.sepBy_eq_seq_many`), whatever the item and the separator are.
-/

namespace Descent

/-- The list of a value followed by the values of a list: the value of an item followed by a
    repetition. Any other value is left as it is. -/
def Value.prepend : Value → Value
  | .pair a (.list vs) => .list (a :: vs)
  | v => v

namespace Parser

/-! ## The two loops -/

/-- The loop of a separated list is the loop of a repetition of a separator followed by an
    item. -/
theorem collectSeparated_eq_collect (item sep : Parser) :
    ∀ fuel acc c, collectSeparated item sep fuel acc c = collect (seqRight sep item) fuel acc c := by
  intro fuel
  induction fuel with
  | zero =>
    intro acc c
    rw [collectSeparated, collect]
    show _ = (sep c >>= _) >>= _
    rw [bind_assoc]
    congr 1
    funext o
    rcases o with _ | ⟨a, d⟩
    · rfl
    · rfl
  | succ n ih =>
    intro acc c
    rw [collectSeparated, collect]
    show _ = (sep c >>= _) >>= _
    rw [bind_assoc]
    congr 1
    funext o
    rcases o with _ | ⟨a, d⟩
    · rfl
    · dsimp only
      congr 1
      funext o'
      rcases o' with _ | ⟨b, e⟩
      · rfl
      · dsimp only
        split
        · rfl
        · exact ih _ e

/-- A repetition's loop appends what it collects to what it was given. -/
theorem collect_acc (p : Parser) :
    ∀ fuel (acc : Array Value) c,
      collect p fuel acc c = collect p fuel #[] c >>= fun x => pure (acc ++ x.1, x.2) := by
  intro fuel
  induction fuel with
  | zero =>
    intro acc c
    rw [collect, collect, bind_assoc]
    congr 1
    funext o
    rcases o with _ | ⟨a, d⟩
    · simp
    · dsimp only
      split <;> rfl
  | succ n ih =>
    intro acc c
    rw [collect, collect, bind_assoc]
    congr 1
    funext o
    rcases o with _ | ⟨a, d⟩
    · simp
    · dsimp only
      split
      · rfl
      · -- both loops go on from the same cursor, with one more value collected
        rw [ih (acc.push a) d, ih (#[].push a) d, bind_assoc]
        congr 1
        funext x
        simp only [pure_bind, Array.push_eq_append, Array.empty_append, Array.append_assoc]

/-- A repetition's loop ends where its body does not match. -/
theorem collect_exit (p : Parser) :
    ∀ fuel acc c vs d, (collect p fuel acc c).result = .ok (vs, d) → (p d).result = .ok none := by
  intro fuel
  induction fuel with
  | zero =>
    intro acc c vs d h
    rw [collect] at h
    obtain ⟨o, hpc, h⟩ := Run.bind_eq_ok.mp h
    rcases o with _ | ⟨a, e⟩
    · cases h
      exact hpc
    · dsimp only at h
      split at h <;> cases h
  | succ n ih =>
    intro acc c vs d h
    rw [collect] at h
    obtain ⟨o, hpc, h⟩ := Run.bind_eq_ok.mp h
    rcases o with _ | ⟨a, e⟩
    · cases h
      exact hpc
    · dsimp only at h
      split at h
      · cases h
      · exact ih _ e vs d h

/-- A separator followed by an item does not match exactly where the separator does not, or
    where it does and the item after it does not. -/
theorem seqRight_eq_none {sep item : Parser} {c : Cursor Element} :
    (seqRight sep item c).result = .ok none ↔ (sep c).result = .ok none ∨
      ∃ a d, (sep c).result = .ok (some (a, d)) ∧ (item d).result = .ok none := by
  constructor
  · intro h
    obtain ⟨o, hsc, h⟩ := Run.bind_eq_ok.mp h
    rcases o with _ | ⟨a, d⟩
    · exact .inl hsc
    · exact .inr ⟨a, d, hsc, h⟩
  · rintro (h | ⟨a, d, hsc, h⟩)
    · show (sep c >>= _).result = _
      rw [Run.bind_result_of_ok h]
      rfl
    · show (sep c >>= _).result = _
      rw [Run.bind_result_of_ok hsc]
      exact h

/-! ## Separated lists -/

/-- A separated list is its first item followed by a repetition of a separator and an item,
    the values of the repetition put after the first: the two parsers are equal, so from
    every cursor they run the item and the separator on the same cursors in the same order,
    report the same events and end alike. A separated list does not match exactly where its
    first item does not; a match gives a list of one value or more, and leaves a cursor
    where no separator matches, or where one matches and no item follows it: a dangling
    separator is left unread. -/
theorem sepBy_eq_seq_many (item sep : Parser) :
    sepBy item sep = map (seq item (many (seqRight sep item))) (fun v => .ok v.prepend) ∧
    (∀ c, (sepBy item sep c).result = .ok none ↔ (item c).result = .ok none) ∧
    (∀ c v r, (sepBy item sep c).result = .ok (some (v, r)) →
      (∃ a vs, v = .list (a :: vs)) ∧ ((sep r).result = .ok none ∨
        ∃ x d, (sep r).result = .ok (some (x, d)) ∧ (item d).result = .ok none)) := by
  have heq : sepBy item sep =
      map (seq item (many (seqRight sep item))) (fun v => .ok v.prepend) := by
    funext c
    show item c >>= _ = (item c >>= _) >>= _
    rw [bind_assoc]
    congr 1
    funext o
    rcases o with _ | ⟨a, d⟩
    · rfl
    · -- after the first item, both loops collect the same values, put after the first
      dsimp only
      simp only [andThen, many, yield, bind_assoc]
      rw [collectSeparated_eq_collect, collect_acc, bind_assoc]
      simp only [pure_bind]
      congr 1
      funext x
      simp [Value.prepend]
  refine ⟨heq, fun c => ?_, fun c v r h => ?_⟩
  · constructor
    · intro h
      obtain ⟨o, hic, h⟩ := Run.bind_eq_ok.mp h
      rcases o with _ | ⟨a, d⟩
      · exact hic
      · -- after a first item the list matches, or the run stops
        obtain ⟨x, -, h⟩ := Run.bind_eq_ok.mp h
        cases h
    · intro h
      show (item c >>= _).result = _
      rw [Run.bind_result_of_ok h]
      rfl
  · obtain ⟨o, hic, h⟩ := Run.bind_eq_ok.mp h
    rcases o with _ | ⟨a, d⟩
    · cases h
    · -- the loop collected the first item, then the steps of a repetition
      dsimp only at h
      rw [collectSeparated_eq_collect, collect_acc, bind_assoc] at h
      obtain ⟨⟨vs, e⟩, hcol, h⟩ := Run.bind_eq_ok.mp h
      cases h
      exact ⟨⟨a, vs.toList, by simp⟩, seqRight_eq_none.mp (collect_exit _ _ _ _ _ _ hcol)⟩

/-- Items `a` separated by commas, on `a,a,`: a list of two items, and the last comma, which
    no item follows, is left. -/
theorem sepBy_eq_seq_many_trailing :
    (sepBy (accept (.char 'a')) (accept (.char ','))
        (Cursor.start #[Element.char 'a', .char ',', .char 'a', .char ','])).result =
      .ok (some (.list [.char 'a', .char 'a'],
        ⟨#[Element.char 'a', .char ',', .char 'a', .char ','], 3, by decide⟩)) ∧
      (∃ a vs, Value.list [.char 'a', .char 'a'] = .list (a :: vs)) ∧
      ((accept (.char ',') ⟨#[Element.char 'a', .char ',', .char 'a', .char ','], 3,
          by decide⟩).result = .ok none ∨
        ∃ x d, (accept (.char ',') ⟨#[Element.char 'a', .char ',', .char 'a', .char ','], 3,
          by decide⟩).result = .ok (some (x, d)) ∧ (accept (.char 'a') d).result = .ok none) :=
  have h : (sepBy (accept (.char 'a')) (accept (.char ','))
      (Cursor.start #[Element.char 'a', .char ',', .char 'a', .char ','])).result =
        .ok (some (.list [.char 'a', .char 'a'],
          ⟨#[Element.char 'a', .char ',', .char 'a', .char ','], 3, by decide⟩)) := by
    -- the loop takes two steps, each opened by its equation
    unfold sepBy collectSeparated collectSeparated
    rfl
  ⟨h, (sepBy_eq_seq_many _ _).2.2 _ _ _ h⟩

end Parser

end Descent
