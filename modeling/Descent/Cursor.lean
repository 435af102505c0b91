/-!
# Cursors

A cursor is a source sequence together with a position in it. The position never passes the
end of the source (`position_le`), so what is left (`rest`) is the source from the position
on, and a cursor is empty exactly when its position is the size of its source.

A cursor moves forward one element at a time: `next?` gives the head and the cursor past it,
`advance` does the same step and reports the position when the cursor is already at its end.
Two cursors are alike (`sameRest`) when what is left of them is the same sequence, whatever
their sources and positions.
-/

namespace Descent

/-- A position in a source sequence, never past its end. -/
structure Cursor (α : Type) where
  source : Array α
  position : Nat
  position_le : position ≤ source.size

/-- A step past the end of a source, at the given position. -/
structure AtEnd where
  position : Nat
deriving DecidableEq

/-- The text of a step past the end. -/
def AtEnd.message (e : AtEnd) : String :=
  "already at end of input (position " ++ toString e.position ++ ")"

namespace Cursor

variable {α : Type}

/-- The cursor at the first element of a source. -/
def start (source : Array α) : Cursor α := ⟨source, 0, Nat.zero_le _⟩

/-- The cursor at the first element of the same source. -/
def restart (c : Cursor α) : Cursor α := start c.source

/-- Whether no element is left. -/
def isEmpty (c : Cursor α) : Bool := c.source.size ≤ c.position

/-- How many elements are left. -/
def remaining (c : Cursor α) : Nat := c.source.size - c.position

/-- The elements left, from the position on. -/
def rest (c : Cursor α) : List α := c.source.toList.drop c.position

/-- The element at the position, if any. -/
def head? (c : Cursor α) : Option α := c.source[c.position]?

/-- The element at the position and the cursor one past it; `none` at the end. -/
def next? (c : Cursor α) : Option (α × Cursor α) :=
  if h : c.position < c.source.size then
    some (c.source[c.position], ⟨c.source, c.position + 1, h⟩)
  else none

/-- The cursor one past the position; at the end, the position as an error. -/
def advance (c : Cursor α) : Except AtEnd (Cursor α) :=
  match c.next? with
  | some (_, d) => .ok d
  | none => .error ⟨c.position⟩

/-- The cursor `k` elements further on, stepping one element at a time; the first step
past the end gives its position as an error. -/
def advanceBy : Nat → Cursor α → Except AtEnd (Cursor α)
  | 0, c => .ok c
  | k + 1, c => match c.advance with
    | .ok d => advanceBy k d
    | .error e => .error e

/-- Whether what is left of two cursors is the same sequence. -/
def sameRest [DecidableEq α] (c d : Cursor α) : Bool := decide (c.rest = d.rest)

/-! ## The view `rest` and the step `next?` -/

@[simp] theorem start_source (s : Array α) : (start s).source = s := rfl

@[simp] theorem start_position (s : Array α) : (start s).position = 0 := rfl

@[simp] theorem rest_start (s : Array α) : (start s).rest = s.toList := by
  simp [rest, start]

@[simp] theorem restart_source (c : Cursor α) : c.restart.source = c.source := rfl

/-- What is left is as long as the count of remaining elements. -/
theorem length_rest (c : Cursor α) : c.rest.length = c.remaining := by
  simp [rest, remaining]

/-- A cursor is empty exactly when its position is the size of its source. -/
theorem isEmpty_iff (c : Cursor α) : c.isEmpty = true ↔ c.position = c.source.size := by
  have := c.position_le
  simp only [isEmpty, decide_eq_true_eq]
  omega

/-- A cursor is empty exactly when nothing is left. -/
theorem isEmpty_iff_rest (c : Cursor α) : c.isEmpty = true ↔ c.rest = [] := by
  rw [isEmpty_iff, ← List.length_eq_zero_iff, length_rest, remaining]
  have := c.position_le
  omega

/-- The step fails exactly at the end. -/
theorem next?_eq_none_iff (c : Cursor α) : c.next? = none ↔ c.isEmpty = true := by
  rw [isEmpty_iff]
  unfold next?
  have := c.position_le
  split
  · simp only [reduceCtorEq, false_iff]
    omega
  · simp only [true_iff]
    omega

/-- A step keeps the source and moves one position on. -/
theorem next?_eq_some {c d : Cursor α} {a : α} (h : c.next? = some (a, d)) :
    d.source = c.source ∧ d.position = c.position + 1 := by
  unfold next? at h
  split at h
  · cases h
    exact ⟨rfl, rfl⟩
  · cases h

/-- A step takes the first element of what is left, and leaves the others. -/
theorem rest_of_next? {c d : Cursor α} {a : α} (h : c.next? = some (a, d)) :
    c.rest = a :: d.rest := by
  unfold next? at h
  split at h
  · rename_i hlt
    cases h
    simp only [rest]
    rw [List.drop_eq_getElem_cons (by simpa using hlt)]
    simp
  · cases h

/-- The step of a cursor with elements left. -/
theorem next?_of_rest {c : Cursor α} {a : α} {as : List α} (h : c.rest = a :: as) :
    ∃ d, c.next? = some (a, d) ∧ d.rest = as := by
  cases hn : c.next? with
  | none =>
    rw [next?_eq_none_iff, isEmpty_iff_rest, h] at hn
    cases hn
  | some p =>
    obtain ⟨b, d⟩ := p
    have := rest_of_next? hn
    rw [h] at this
    cases this
    exact ⟨d, rfl, rfl⟩

/-- The head is the element of the step. -/
theorem head?_eq (c : Cursor α) : c.head? = c.next?.map Prod.fst := by
  unfold head? next?
  split
  · rename_i h
    simp [h]
  · rename_i h
    simp [h]

/-- Where there is a head, the step is there too, past that head. -/
theorem next?_of_head? {c : Cursor α} {a : α} (h : c.head? = some a) : ∃ d, c.next? = some (a, d) := by
  rw [head?_eq, Option.map_eq_some_iff] at h
  obtain ⟨⟨b, d⟩, hn, rfl⟩ := h
  exact ⟨d, hn⟩

/-- Where there is no head, there is no step. -/
theorem next?_of_head?_none {c : Cursor α} (h : c.head? = none) : c.next? = none := by
  rwa [head?_eq, Option.map_eq_none_iff] at h

/-- `advance` is the step without its element. -/
theorem advance_eq (c : Cursor α) :
    c.advance = match c.next? with
      | some (_, d) => .ok d
      | none => .error ⟨c.position⟩ := rfl

end Cursor

end Descent
