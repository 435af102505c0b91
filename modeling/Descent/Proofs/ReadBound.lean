import Descent.Json.Read

/-! # The reader's count of steps is never used up

`Json.read` hands its reader a count of steps, twice the length of the text and two more, so
that reading is a function by structural recursion. The count never decides the answer.

Each part of the reader leaves no more of the text than it was given, and a value, the items
of an array and the members of an object leave less (`Json.reads_rest_lt`): a value reads at
least one character, and the items and members end with a closing character. A value enters
an array or an object one character on, and the items of an array read a value and go on
after it; so a value needs one step more than twice the characters it sees, and the items or
members two more. From those counts on, one more step changes nothing (`Json.reads_fuel_succ`),
and `read`'s count gives what every larger count gives (`Json.read_fuel_enough`).
-/

namespace Descent.Json

/-- A bound computation that succeeds has a first part that succeeds. -/
theorem Except.ok_of_bind {ε α β : Type} {x : Except ε α} {f : α → Except ε β} {b : β}
    (h : x >>= f = .ok b) : ∃ a, x = .ok a ∧ f a = .ok b := by
  cases x with
  | error e => cases h
  | ok a => exact ⟨a, rfl, h⟩

/-- A mapped computation that succeeds succeeded before the map. -/
theorem Except.ok_of_map {ε α β : Type} {x : Except ε α} {f : α → β} {b : β}
    (h : x.map f = .ok b) : ∃ a, x = .ok a ∧ f a = b := by
  cases x with
  | error e => cases h
  | ok a => exact ⟨a, rfl, Except.ok.inj h⟩

/-! ## What the steps of a scan leave -/

namespace Scan

theorem rest_next {s : Scan} {c : Char} {r : List Char} (h : s.rest = c :: r) :
    s.next.rest = r := by
  simp [next, h]

theorem length_next_le (s : Scan) : s.next.rest.length ≤ s.rest.length := by
  unfold next
  split
  · exact Nat.le_refl _
  · rename_i c r h
    simp [h]

theorem length_skipBlanks_go (cs : List Char) (o : Nat) :
    (skipBlanks.go cs o).rest.length ≤ cs.length := by
  induction cs generalizing o with
  | nil => exact Nat.le_refl _
  | cons c r ih =>
    simp only [skipBlanks.go]
    split
    · have := ih (o + 1)
      simp only [List.length_cons]
      omega
    · exact Nat.le_refl _

theorem length_skipBlanks_le (s : Scan) : s.skipBlanks.rest.length ≤ s.rest.length :=
  length_skipBlanks_go s.rest s.offset

/-- The character after the blanks, once read, leaves less than the text had. -/
theorem length_next_skipBlanks {s : Scan} {c : Char} {r : List Char}
    (h : s.skipBlanks.rest = c :: r) : s.skipBlanks.next.rest.length < s.rest.length := by
  have := length_skipBlanks_le s
  rw [rest_next h]
  rw [h, List.length_cons] at this
  omega

end Scan

/-! ## What each part of the reader leaves -/

theorem readWord_length {ws : List Char} {s s' : Scan} (h : readWord ws s = .ok s') :
    s'.rest.length ≤ s.rest.length := by
  fun_induction readWord ws s with
  | case1 s =>
    cases h
    exact Nat.le_refl _
  | case3 s ws c r hc ih => exact Nat.le_trans (ih h) (Scan.length_next_le s)
  | case2 | case4 => cases h

/-- A string reads at least its closing quote. -/
theorem readChars_length {acc : List Char} {o : Nat} {cs : List Char} {t : String} {s : Scan}
    (h : readChars acc o cs = .ok (t, s)) : s.rest.length < cs.length := by
  fun_induction readChars acc o cs <;> simp_all
  · -- the closing quote: the text after it
    obtain ⟨-, rfl⟩ := h
    simp
  -- each other step reads on past an escape or a character
  all_goals omega

/-- The integer part of a numeral is a nonempty part of the text. -/
theorem readWhole_length {r : List Char} {o : Nat} {whole : List Char}
    (h : readWhole r o = .ok whole) : 0 < whole.length ∧ whole.length ≤ r.length := by
  unfold readWhole at h
  split at h
  · cases h
  · split at h
    · cases h
    · cases h
      simp
  · rename_i d r _
    split at h
    · rename_i hd
      cases h
      simp [hd, (List.takeWhile_sublist _).length_le]
    · cases h

theorem readFraction_length {r : List Char} {o : Nat} {f : Option (List Char)} {r' : List Char}
    {o' : Nat} (h : readFraction r o = .ok (f, r', o')) : r'.length ≤ r.length := by
  unfold readFraction at h
  split at h
  · dsimp only at h
    split at h
    · cases h
    · cases h
    · cases h
      exact Nat.le_succ_of_le (List.dropWhile_sublist _).length_le
  · cases h
    exact Nat.le_refl _

theorem readExponent_length {cs : List Char} {o : Nat} {neg : Bool} {ds r : List Char}
    {o' : Nat} (h : readExponent cs o = .ok (neg, ds, r, o')) : r.length ≤ cs.length := by
  unfold readExponent at h
  split at h
  rename_i negative r0 o0 hsign
  -- the digits follow the sign, if there is one
  have hr0 : r0.length ≤ cs.length := by
    split at hsign <;> cases hsign <;> simp
  split at h
  · cases h
  · split at h
    · cases h
      exact Nat.le_trans (List.dropWhile_sublist _).length_le hr0
    · cases h

theorem readExponentPart_length {r : List Char} {o : Nat} {e : Option (Bool × List Char)}
    {r' : List Char} {o' : Nat} (h : readExponentPart r o = .ok (e, r', o')) :
    r'.length ≤ r.length := by
  unfold readExponentPart at h
  split at h
  case h_3 =>
    cases h
    exact Nat.le_refl _
  -- after an `e` or an `E`, what the exponent leaves
  all_goals
    obtain ⟨⟨neg, ds, r'', o''⟩, hx, he⟩ := Except.ok_of_map h
    cases he
    exact Nat.le_succ_of_le (readExponent_length hx)

/-- A numeral reads at least the first digit of its integer part. -/
theorem readNumber_length {s s' : Scan} {j : Json} (h : readNumber s = .ok (j, s')) :
    s'.rest.length < s.rest.length := by
  unfold readNumber at h
  split at h
  rename_i negative r0 o0 hsign
  have hr0 : r0.length ≤ s.rest.length := by
    split at hsign <;> cases hsign <;> simp_all
  obtain ⟨whole, hw, h⟩ := Except.ok_of_bind h
  obtain ⟨⟨fraction, r2, o2⟩, hf, h⟩ := Except.ok_of_bind h
  obtain ⟨⟨exponent, r3, o3⟩, he, h⟩ := Except.ok_of_bind h
  obtain ⟨v, -, h⟩ := Except.ok_of_bind h
  cases h
  have hwhole := readWhole_length hw
  calc r3.length ≤ r2.length := readExponentPart_length he
    _ ≤ (r0.drop whole.length).length := readFraction_length hf
    _ = r0.length - whole.length := List.length_drop
    _ < r0.length := by omega
    _ ≤ s.rest.length := hr0

theorem itemStart_length {first : Bool} {c : Char} {s t : Scan} (h : itemStart first c s = .ok t) :
    t.rest.length ≤ s.rest.length := by
  unfold itemStart at h
  split at h
  · cases h
    exact Nat.le_refl _
  · split at h
    · dsimp only at h
      split at h
      · cases h
      · cases h
      · cases h
        exact Nat.le_trans (Scan.length_skipBlanks_le _) (Scan.length_next_le s)
    · cases h

theorem keyStart_length {first : Bool} {c : Char} {s t : Scan} (h : keyStart first c s = .ok t) :
    t.rest.length ≤ s.rest.length := by
  unfold keyStart at h
  split at h
  · split at h
    · cases h
      exact Nat.le_refl _
    · cases h
  · split at h
    · dsimp only at h
      split at h
      · cases h
        exact Nat.le_trans (Scan.length_skipBlanks_le _) (Scan.length_next_le s)
      all_goals cases h
    · cases h

/-- The value of a member starts after its key and its colon, with less of the text left than
the members had before the key. -/
theorem member_value_length {first : Bool} {c : Char} {s t u : Scan} {k : String}
    {r : List Char} (ht : keyStart first c s.skipBlanks = .ok t)
    (hu : readChars [] (t.offset + 1) t.rest.tail = .ok (k, u))
    (hc : u.skipBlanks.rest = ':' :: r) : u.skipBlanks.next.rest.length < s.rest.length := by
  have h1 := keyStart_length ht
  have h2 := readChars_length hu
  have h3 : t.rest.tail.length ≤ t.rest.length := by simp
  have h4 := Scan.length_next_skipBlanks hc
  have h5 := Scan.length_skipBlanks_le s
  omega

/-! ## Values, items and members read on -/

/-- A value, the items of an array and the members of an object, read with any count of
steps, leave less of the text than they were given. -/
theorem reads_rest_lt (n : Nat) :
    (∀ s j s', readValue n s = .ok (j, s') → s'.rest.length < s.rest.length) ∧
    (∀ first acc s j s', readItems n first acc s = .ok (j, s') →
      s'.rest.length < s.rest.length) ∧
    (∀ first acc s j s', readFields n first acc s = .ok (j, s') →
      s'.rest.length < s.rest.length) := by
  induction n with
  | zero =>
    exact ⟨fun _ _ _ h => (by cases h), fun _ _ _ _ _ h => (by cases h),
      fun _ _ _ _ _ h => (by cases h)⟩
  | succ n ih =>
    obtain ⟨ihv, ihi, ihf⟩ := ih
    refine ⟨fun s j s' h => ?_, fun first acc s j s' h => ?_, fun first acc s j s' h => ?_⟩
    · have hs := Scan.length_skipBlanks_le s
      simp only [readValue] at h
      split at h
      case h_1 => cases h
      case h_2 heq | h_3 heq | h_4 heq =>
        -- a word: its first letter, then the rest of it
        obtain ⟨t, ht, he⟩ := Except.ok_of_map h
        cases he
        exact Nat.lt_of_le_of_lt (readWord_length ht) (Scan.length_next_skipBlanks heq)
      case h_5 r heq =>
        obtain ⟨⟨t, u⟩, hc, he⟩ := Except.ok_of_map h
        cases he
        show u.rest.length < s.rest.length
        have := readChars_length hc
        rw [heq, List.length_cons] at hs
        omega
      case h_6 heq => exact Nat.lt_trans (ihi _ _ _ _ _ h) (Scan.length_next_skipBlanks heq)
      case h_7 heq => exact Nat.lt_trans (ihf _ _ _ _ _ h) (Scan.length_next_skipBlanks heq)
      case h_8 =>
        split at h
        · exact Nat.lt_of_lt_of_le (readNumber_length h) hs
        · cases h
    · have hs := Scan.length_skipBlanks_le s
      simp only [readItems] at h
      split at h
      case h_1 heq =>
        -- the closing bracket
        cases h
        exact Scan.length_next_skipBlanks heq
      case h_2 => cases h
      case h_3 =>
        split at h
        case h_1 => cases h
        case h_2 t ht =>
          split at h
          case h_1 => cases h
          case h_2 v u hu =>
            -- an item, then the items after it
            have h1 := itemStart_length ht
            have h2 := ihv _ _ _ hu
            have h3 := ihi _ _ _ _ _ h
            omega
    · simp only [readFields] at h
      split at h
      case h_1 heq =>
        -- the closing brace
        cases h
        exact Scan.length_next_skipBlanks heq
      case h_2 => cases h
      case h_3 =>
        split at h
        case h_1 => cases h
        case h_2 t ht =>
          split at h
          case h_1 => cases h
          case h_2 k u hu =>
            split at h
            case h_1 heq =>
              split at h
              case h_1 => cases h
              case h_2 v w hw =>
                -- a key, a colon, a value, then the members after it
                have h1 := member_value_length ht hu heq
                have h2 := ihv _ _ _ hw
                have h3 := ihf _ _ _ _ _ h
                omega
            all_goals cases h

/-! ## Enough steps -/

/-- From twice the characters left and one more for a value, and two more for the items of an
array or the members of an object, one more step of the reader changes nothing. -/
theorem reads_fuel_succ (n : Nat) :
    (∀ s, 2 * s.rest.length + 1 ≤ n → readValue (n + 1) s = readValue n s) ∧
    (∀ first acc s, 2 * s.rest.length + 2 ≤ n →
      readItems (n + 1) first acc s = readItems n first acc s) ∧
    (∀ first acc s, 2 * s.rest.length + 2 ≤ n →
      readFields (n + 1) first acc s = readFields n first acc s) := by
  induction n with
  | zero => exact ⟨fun _ h => by omega, fun _ _ _ h => by omega, fun _ _ _ h => by omega⟩
  | succ n ih =>
    obtain ⟨ihv, ihi, ihf⟩ := ih
    refine ⟨fun s hs => ?_, fun first acc s hs => ?_, fun first acc s hs => ?_⟩
    · -- a value: only arrays and objects go on with the count
      simp only [readValue]
      split
      case h_6 heq =>
        have := Scan.length_next_skipBlanks heq
        exact ihi _ _ _ (by omega)
      case h_7 heq =>
        have := Scan.length_next_skipBlanks heq
        exact ihf _ _ _ (by omega)
      all_goals rfl
    · -- items: a value from where the item starts, then the items after it
      have h0 := Scan.length_skipBlanks_le s
      simp only [readItems]
      split
      case h_3 =>
        split
        case h_2 t ht =>
          have h1 := itemStart_length ht
          rw [ihv t (by omega)]
          split
          case h_2 v u hu =>
            have h2 := (reads_rest_lt n).1 _ _ _ hu
            exact ihi _ _ _ (by omega)
          all_goals rfl
        all_goals rfl
      all_goals rfl
    · -- members: a key, a colon and a value, then the members after it
      simp only [readFields]
      split
      case h_3 =>
        split
        case h_2 t ht =>
          split
          case h_2 k u hu =>
            split
            case h_1 heq =>
              have h1 := member_value_length ht hu heq
              rw [ihv _ (by omega)]
              split
              case h_2 v w hw =>
                have h5 := (reads_rest_lt n).1 _ _ _ hw
                exact ihf _ _ _ (by omega)
              all_goals rfl
            all_goals rfl
          all_goals rfl
        all_goals rfl
      all_goals rfl

/-- A value read with at least twice the characters left and one more steps reads the same
with any more. -/
theorem readValue_fuel_stable {s : Scan} {n : Nat} (hn : 2 * s.rest.length + 1 ≤ n) :
    ∀ k, readValue (n + k) s = readValue n s := by
  intro k
  induction k with
  | zero => rfl
  | succ k ih => rw [← Nat.add_assoc, (reads_fuel_succ (n + k)).1 s (by omega), ih]

/-- The count of steps that `read` hands its reader is never used up: every larger count
gives the same answer. -/
theorem read_fuel_enough (text : String) (n : Nat) (h : 2 * text.toList.length + 2 ≤ n) :
    readValue n ⟨text.toList, 0⟩ = readValue (2 * text.toList.length + 2) ⟨text.toList, 0⟩ := by
  obtain ⟨k, rfl⟩ := Nat.exists_eq_add_of_le h
  exact readValue_fuel_stable (s := ⟨text.toList, 0⟩) (by simp) k

end Descent.Json
