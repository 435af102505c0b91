import Descent.Proofs.Compose
import Descent.Proofs.Separated
import Descent.Proofs.FaultOrigin

/-! # A literal is the sequence of its characters

    A literal compares the characters of its text with the elements at the cursor, one by one,
    stepping past each that agrees, and gives up at the first that differs or where the input
    ends. Hence it is the sequence of the one-element parsers of its characters, their values
    read as a string (`Parser.literal_eq_chain`): the two fail on the same cursors and leave the
    same cursor, and the values of the characters spell the text.

    It matches exactly where its characters come next, with its text as the value and the
    cursor as many elements on as the text has characters, which is where that many steps of
    one element lead, none of them from an empty cursor (`Parser.literal_advanceBy`). It
    reports nothing and never stops, and the empty literal matches everywhere, reading nothing
    (`Grammar.run_literal_chars`).
-/

namespace Descent

/-! ## The text of characters -/

namespace Value

/-- The characters of a list, each a text of its own, are texts. -/
theorem mapM_piece?_chars (cs : List Char) :
    (cs.map Value.char).mapM piece? = some (cs.map String.singleton) := by
  induction cs with
  | nil => rfl
  | cons ch chs ih => simp [piece?, ih]

/-- Texts of one character each, joined, are the text of the characters. -/
theorem join_singletons (cs : List Char) :
    String.join (cs.map String.singleton) = String.ofList cs := by
  induction cs with
  | nil => rfl
  | cons ch chs ih => rw [List.map_cons, String.join_cons, ih, String.ofList_cons]

/-- The list of the characters of `s` spells `s`. -/
theorem text?_chars (s : String) : (Value.list (s.toList.map Value.char)).text? = some s := by
  rw [text?, mapM_piece?_chars, Option.map_some, join_singletons, String.ofList_toList]

end Value

/-- The `string` transformation reads the characters of `s` as `s`. -/
theorem Transform.apply_string_chars (s : String) :
    Transform.string.apply (.list (s.toList.map Value.char)) = .ok (.str s) := by
  rw [Transform.apply, Value.text?_chars]

/-- Steps of one element that all succeed keep the source and move on by their count. -/
theorem Cursor.advanceBy_ok {k : Nat} {c d : Cursor Element} (h : c.advanceBy k = .ok d) :
    d.source = c.source ∧ d.position = c.position + k := by
  obtain ⟨hok, herr⟩ := Cursor.advanceBy_eq k c
  by_cases hk : c.position + k ≤ c.source.size
  · obtain ⟨d', hd', hs, hp⟩ := hok hk
    rw [h] at hd'
    cases hd'
    exact ⟨hs, hp⟩
  · rw [herr (by omega)] at h
    cases h

namespace Parser

/-! ## Sequences of any length -/

/-- Parsers run one after another, each from the cursor the one before it left; the value is the
    list of their values. No parser at all matches, reading nothing. -/
def chain : List Parser → Parser
  | [] => yield (.list [])
  | p :: ps => map (seq p (chain ps)) fun v => .ok v.prepend

/-- The one-element parser of a character reads the next element if it is that character. -/
theorem accept_char (ch : Char) (c : Cursor Element) :
    accept (.char ch) c = pure (match c.next? with
      | some (e, d) => if e = .char ch then some (.char ch, d) else none
      | none => none) := by
  rw [accept, satisfy_eq]
  simp only [headMatch]
  cases c.next? with
  | none => rfl
  | some x =>
    obtain ⟨e, d⟩ := x
    by_cases he : e = .char ch
    · subst he
      simp [Element.toValue]
    · simp [he]

/-- The one-element parsers of the characters of `cs`, run in sequence, skip those characters:
    they match exactly where the characters come next, with the characters as their values,
    and they report nothing. -/
theorem chain_accept_chars (cs : List Char) (c : Cursor Element) :
    chain (cs.map fun ch => accept (.char ch)) c =
      pure ((skipChars cs c).map fun d => (.list (cs.map Value.char), d)) := by
  induction cs generalizing c with
  | nil => rfl
  | cons ch chs ih =>
    rw [List.map_cons, chain, map_ok_eq]
    -- the first character is read from the cursor's next element, if there is one
    cases hn : c.next? with
    | none =>
      have h : (accept (.char ch) c).result = .ok none := by rw [accept_char, hn]; rfl
      rw [seq_of_noMatch h, accept_char, hn]
      simp only [skipChars, hn]
      rfl
    | some x =>
      obtain ⟨e, d⟩ := x
      by_cases he : e = .char ch
      · subst he
        have h : (accept (.char ch) c).result = .ok (some (.char ch, d)) := by
          rw [accept_char, hn]
          simp
        rw [seq_of_match h, ih d, accept_char, hn]
        simp only [skipChars, hn, if_true]
        cases skipChars chs d <;> rfl
      · have h : (accept (.char ch) c).result = .ok none := by
          rw [accept_char, hn]
          simp [he]
        rw [seq_of_noMatch h, accept_char, hn]
        simp only [skipChars, hn, he, if_false]
        rfl

/-- A literal is the sequence of the one-element parsers of its characters, the list of their
    values read as a string. -/
theorem literal_eq_chain (s : String) :
    literal s = map (chain (s.toList.map fun ch => accept (.char ch))) Transform.string.apply := by
  funext c
  show literal s c = chain _ c >>= _
  rw [literal_eq, chain_accept_chars, pure_bind]
  cases skipChars s.toList c with
  | none => rfl
  | some d =>
    -- the characters matched, and their values spell the text
    simp only [Option.map_some, Transform.apply_string_chars]

/-! ## Where a literal matches -/

/-- Skipping characters takes one step of one element per character, none of them past the
    end. -/
theorem skipChars_advanceBy {cs : List Char} {c d : Cursor Element}
    (h : skipChars cs c = some d) : c.advanceBy cs.length = .ok d := by
  induction cs generalizing c with
  | nil =>
    simp only [skipChars, Option.some.injEq] at h
    subst h
    rfl
  | cons ch chs ih =>
    simp only [skipChars] at h
    split at h
    · rename_i e d' hn
      split at h
      · -- the step past the first character is the cursor's own step
        have hadv : c.advance = .ok d' := by rw [Cursor.advance_eq, hn]
        rw [List.length_cons, Cursor.advanceBy, hadv]
        exact ih h
      · cases h
    · cases h

/-- A match of a parser that skips characters and gives a fixed value: that value, and the
    cursor past the characters. -/
theorem skipChars_match {cs : List Char} {w v : Value} {c d : Cursor Element}
    (h : (pure ((skipChars cs c).map fun d => (w, d)) : Run Outcome).result = .ok (some (v, d))) :
    v = w ∧ skipChars cs c = some d := by
  obtain ⟨d', hs, hvd⟩ := Option.map_eq_some_iff.mp (Except.ok.inj h)
  cases hvd
  exact ⟨rfl, hs⟩

/-- A literal matches with its text as the value, where as many steps of one element as it has
    characters lead, none of them from an empty cursor. -/
theorem literal_advanceBy {s : String} {c d : Cursor Element} {v : Value}
    (h : (literal s c).result = .ok (some (v, d))) :
    v = .str s ∧ c.advanceBy s.length = .ok d := by
  rw [literal_eq] at h
  obtain ⟨rfl, hs⟩ := skipChars_match h
  rw [← String.length_toList]
  exact ⟨rfl, skipChars_advanceBy hs⟩

/-- A literal matches exactly where its characters come next. -/
theorem literal_match_iff (s : String) (c : Cursor Element) :
    (∃ v d, (literal s c).result = .ok (some (v, d))) ↔ s.toList.map Element.char <+: c.rest := by
  rw [literal_eq]
  constructor
  · rintro ⟨v, d, h⟩
    obtain ⟨-, hs⟩ := skipChars_match h
    exact ⟨d.rest, (rest_of_skipChars hs).symm⟩
  · rintro ⟨t, ht⟩
    obtain ⟨d, hd, -⟩ := skipChars_of_rest ht.symm
    refine ⟨.str s, d, ?_⟩
    rw [hd]
    rfl

end Parser

namespace Grammar

/-- A literal matches exactly its characters. From every cursor `i`, it is the sequence of the
    one-element parsers of the characters of its text, their values read as a string: the two
    fail alike and leave the same cursor, and the values of a match of the characters are the
    characters, which spell the text. The literal matches exactly where its characters come
    next; then its value is its text and it leaves the cursor that as many steps of one element
    as the text has characters reach, each from a cursor with an element left, on the same
    source and that many positions on. It reports nothing and never stops, and the empty
    literal matches everywhere, reading nothing. -/
theorem run_literal_chars (rules : Rules) (s : String) :
    (Grammar.literal s).run rules =
      Parser.map (Parser.chain (s.toList.map fun ch => (Grammar.accept (.char ch)).run rules))
        Transform.string.apply ∧
    (∀ i v d, (Parser.chain (s.toList.map fun ch => (Grammar.accept (.char ch)).run rules)
        i).result = .ok (some (v, d)) →
      v = .list (s.toList.map Value.char) ∧ Transform.string.apply v = .ok (.str s)) ∧
    (∀ i, (∃ v d, ((Grammar.literal s).run rules i).result = .ok (some (v, d))) ↔
      s.toList.map Element.char <+: i.rest) ∧
    (∀ i v d, ((Grammar.literal s).run rules i).result = .ok (some (v, d)) →
      v = .str s ∧ i.advanceBy s.length = .ok d ∧ d.source = i.source ∧
        d.position = i.position + s.length) ∧
    (∀ i, ∃ o, (Grammar.literal s).run rules i = pure o) ∧
    ∀ i, (Grammar.literal "").run rules i = pure (some (.str "", i)) := by
  simp only [run_literal, run_accept]
  refine ⟨Parser.literal_eq_chain s, fun i v d h => ?_, Parser.literal_match_iff s,
    fun i v d h => ?_, fun i => ⟨_, Parser.literal_eq s i⟩, fun i => Parser.literal_eq "" i⟩
  · -- a match of the characters has their list as its value
    rw [Parser.chain_accept_chars] at h
    obtain ⟨rfl, -⟩ := Parser.skipChars_match h
    exact ⟨rfl, Transform.apply_string_chars s⟩
  · obtain ⟨rfl, hadv⟩ := Parser.literal_advanceBy h
    exact ⟨rfl, hadv, Cursor.advanceBy_ok hadv⟩

end Grammar

end Descent
