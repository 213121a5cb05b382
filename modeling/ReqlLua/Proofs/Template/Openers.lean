import ReqlLua.Proofs.Template.Grammar

/-! Where markers can stand. A marker begins with an opener and keeps to its line, so what is put behind a
text, or in the place of the text behind an opener, makes no marker that begins in a literal. -/

namespace ReqlLua.Template

open Delimiters

/-! ### Markers and lines -/

theorem starts_append {text raw after : List Char} (starts : delimiters.Starts text raw after)
    (more : List Char) : delimiters.Starts (text ++ more) raw (after ++ more) :=
  ⟨by rw [starts.split, List.append_assoc], starts.nonempty, starts.oneLine⟩

/-- A marker that starts on a line ends on it. -/
theorem starts_line {line rest raw after : List Char}
    (starts : delimiters.Starts (line ++ '\n' :: rest) raw after) :
    ∃ between, delimiters.Starts line raw between ∧ after = between ++ '\n' :: rest := by
  rcases List.append_eq_append_iff.1 starts.split with
    ⟨between, long, follows⟩ | ⟨between, rfl, behind⟩
  · cases between with
    | nil =>
      refine ⟨[], ⟨?_, starts.nonempty, starts.oneLine⟩, follows.symm⟩
      rw [long, List.append_nil, List.append_nil]
    | cons c between =>
      obtain ⟨rfl, -⟩ := List.cons_eq_cons.1 follows
      exact absurd (long ▸ List.mem_append_right _ List.mem_cons_self) (not_mem_around starts)
  · exact ⟨between, ⟨rfl, starts.nonempty, starts.oneLine⟩, behind⟩

/-- A marker stands behind the line feed or entirely before it. -/
theorem starts_before_line {front back before behind raw after : List Char}
    (split : front ++ '\n' :: back = before ++ behind) (starts : delimiters.Starts behind raw after) :
    front.length < before.length ∨ ∃ inner between, front = before ++ inner ∧
      delimiters.Starts inner raw between ∧ after = between ++ '\n' :: back := by
  rcases List.append_eq_append_iff.1 split with ⟨between, rfl, follows⟩ | ⟨inner, rfl, rfl⟩
  · cases between with
    | nil =>
      obtain ⟨rest, rfl⟩ := starts_nonempty starts
      exact absurd follows (by simp)
    | cons c between => exact .inl (by simp)
  · obtain ⟨between, inside, rfl⟩ := starts_line starts
    exact .inr ⟨inner, between, rfl, inside, rfl⟩

/-! ### Openers in literals -/

theorem starts_opener {text raw after : List Char} (starts : delimiters.Starts text raw after) :
    text = opener ++ (raw ++ (closer ++ after)) := by
  rw [starts.split, around_eq, List.append_assoc, List.append_assoc]

/-- Behind an opener in a literal no marker ends, whatever takes the place of the text behind the literal. -/
theorem not_starts_in_literal {text literal raw rest before inner : List Char}
    (first : delimiters.First text literal raw rest) (opened : literal = before ++ (opener ++ inner))
    (beyond : List Char) {other after : List Char} :
    ¬delimiters.Starts (opener ++ inner ++ beyond) other after := by
  intro starts
  have split : text = before ++ (opener ++ inner ++ (delimiters.around raw ++ rest)) := by
    rw [first.split, opened]
    simp only [List.append_assoc]
  -- Either way a marker of the text itself starts at the opener, which is before the first one.
  have earlier : ∃ raw' after',
      delimiters.Starts (opener ++ inner ++ (delimiters.around raw ++ rest)) raw' after' := by
    by_cases ends : '\n' ∈ inner
    · obtain ⟨line, lines, rfl⟩ := List.append_of_mem ends
      have line_split (back : List Char) : opener ++ (line ++ '\n' :: lines) ++ back =
          (opener ++ line) ++ '\n' :: (lines ++ back) := by
        simp only [List.append_assoc, List.cons_append]
      rw [line_split] at starts
      obtain ⟨between, onLine, -⟩ := starts_line starts
      rw [line_split]
      exact ⟨other, _, starts_append onLine _⟩
    · have oneLine : '\n' ∉ raw := first.starts.oneLine
      refine ⟨inner ++ (opener ++ raw), rest, ?_, ?_, ?_⟩
      · simp only [around_eq, List.append_assoc]
      · simp [opener]
      · change '\n' ∉ inner ++ (opener ++ raw)
        simp [ends, oneLine, opener]
  obtain ⟨raw', after', starts'⟩ := earlier
  have bound := first.leftmost split starts'
  have positive : 0 < opener.length := by decide
  rw [opened, List.length_append, List.length_append] at bound
  omega

/-- No opener ends with the beginning of another, so one that begins before a second one ends before it. -/
theorem opener_before_opener {ending beyond tail : List Char} (someText : ending ≠ [])
    (same : ending ++ (opener ++ beyond) = opener ++ tail) : ∃ inner, ending = opener ++ inner := by
  match ending, someText, same with
  | [_], _, same => simp [opener] at same
  | [_, _], _, same => simp [opener] at same
  | [_, _, _], _, same => simp [opener] at same
  | _ :: _ :: _ :: _ :: inner, _, same =>
    simp only [opener, List.cons_append, List.cons.injEq] at same
    obtain ⟨rfl, rfl, rfl, rfl, -⟩ := same
    exact ⟨inner, rfl⟩

/-- An opener that begins before another opener does lies in the text before that. -/
theorem opener_in_front {front beyond before tail : List Char}
    (split : front ++ (opener ++ beyond) = before ++ (opener ++ tail)) :
    front.length ≤ before.length ∨
      ∃ inner, front = before ++ (opener ++ inner) ∧ tail = inner ++ (opener ++ beyond) := by
  rcases List.append_eq_append_iff.1 split with ⟨between, rfl, -⟩ | ⟨ending, rfl, follows⟩
  · exact .inl (by simp only [List.length_append]; omega)
  · by_cases none : ending = []
    · exact .inl (by simp only [none, List.append_nil]; omega)
    · obtain ⟨inner, rfl⟩ := opener_before_opener none follows.symm
      rw [List.append_assoc] at follows
      exact .inr ⟨inner, rfl, List.append_cancel_left follows⟩

/-- In the literal before a marker no other marker starts, whatever takes the place of the text behind the opener. -/
theorem starts_behind_literal {text literal raw rest : List Char}
    (first : delimiters.First text literal raw rest) (beyond : List Char)
    {before behind other after : List Char} (split : literal ++ (opener ++ beyond) = before ++ behind)
    (starts : delimiters.Starts behind other after) : literal.length ≤ before.length := by
  obtain rfl := starts_opener starts
  rcases opener_in_front split with late | ⟨inner, opened, follows⟩
  · exact late
  · rw [follows, ← List.append_assoc] at starts
    exact absurd starts (not_starts_in_literal first opened _)

/-! ### Texts that go on -/

/-- A marker that ends in a text stands in it whatever follows. -/
theorem starts_within {text back other after : List Char} (starts : delimiters.Starts (text ++ back) other after)
    (ends : (delimiters.around other).length ≤ text.length) : ∃ rest, delimiters.Starts text other rest := by
  obtain ⟨rest, same⟩ := List.prefix_of_prefix_length_le
    (starts.split ▸ List.prefix_append (delimiters.around other) after) (List.prefix_append text back) ends
  exact ⟨rest, same.symm, starts.nonempty, starts.oneLine⟩

/-- The first marker is the first whatever is added behind the text. -/
theorem first_append {text literal raw rest : List Char} (first : delimiters.First text literal raw rest)
    (back : List Char) : delimiters.First (text ++ back) literal raw (rest ++ back) where
  split := by
    rw [first.split]
    simp only [List.append_assoc]
  starts := ⟨rfl, first.starts.nonempty, first.starts.oneLine⟩
  shortest {other after} starts := by
    refine Nat.le_of_not_lt fun shorter => ?_
    rw [← List.append_assoc] at starts
    obtain ⟨between, inside⟩ := starts_within starts (by
      simp only [around_eq, List.length_append]
      omega)
    exact absurd (first.shortest inside) (Nat.not_le_of_lt shorter)
  leftmost {before behind other after} split starts := by
    rw [first.split] at split
    simp only [around_eq, List.append_assoc] at split
    exact starts_behind_literal first _ split starts

/-- The first marker is the first in any part of the text that holds it. -/
theorem first_front {literal raw rest more : List Char}
    (first : delimiters.First (literal ++ (delimiters.around raw ++ (rest ++ more))) literal raw (rest ++ more)) :
    delimiters.First (literal ++ (delimiters.around raw ++ rest)) literal raw rest where
  split := rfl
  starts := ⟨rfl, first.starts.nonempty, first.starts.oneLine⟩
  shortest starts := by
    have starts' := starts_append starts more
    rw [List.append_assoc] at starts'
    exact first.shortest starts'
  leftmost split starts := by
    have longer := congrArg (· ++ more) split
    simp only [List.append_assoc] at longer
    exact first.leftmost longer (starts_append starts more)

end ReqlLua.Template
