import Mathlib.Data.List.TakeWhile
import ReqlLua.Text.Blank

/-! What trimming leaves of a text. -/

namespace ReqlLua.Text

/-- Only blanks are missing at the two ends, and no blank is left there. -/
structure Trimmed (text core : List Char) : Prop where
  ends : ∃ before after, text = before ++ (core ++ after) ∧ before.all isBlank = true ∧
    after.all isBlank = true
  front : core.head?.all (!isBlank ·) = true
  back : core.getLast?.all (!isBlank ·) = true

theorem head_dropWhile_blank (text : List Char) :
    (text.dropWhile isBlank).head?.all (!isBlank ·) = true := by
  have front := List.head?_dropWhile_not isBlank text
  cases first : (text.dropWhile isBlank).head? with
  | none => rfl
  | some c =>
    rw [first] at front
    simpa using front

theorem trim_trimmed (text : List Char) : Trimmed text (trim text) := by
  let left := text.dropWhile isBlank
  let core := left.reverse.dropWhile isBlank
  have trimmed : trim text = core.reverse := rfl
  have split : left = core.reverse ++ (left.reverse.takeWhile isBlank).reverse := by
    rw [← List.reverse_append, List.takeWhile_append_dropWhile, List.reverse_reverse]
  rw [trimmed]
  refine ⟨⟨text.takeWhile isBlank, (left.reverse.takeWhile isBlank).reverse, ?_, ?_, ?_⟩, ?_, ?_⟩
  · rw [← split, List.takeWhile_append_dropWhile]
  · exact List.all_takeWhile
  · rw [List.all_reverse]
    exact List.all_takeWhile
  · -- The front of the core is the front of the text that was trimmed on its left.
    have front := head_dropWhile_blank text
    cases last : core.reverse with
    | nil => rfl
    | cons c rest =>
      have same : (text.dropWhile isBlank).head? = some c := by
        show left.head? = some c
        rw [split, last]
        rfl
      rw [same] at front
      exact front
  · rw [List.getLast?_reverse]
    exact head_dropWhile_blank left.reverse

theorem Trimmed.mem {text core : List Char} (trimmed : Trimmed text core) {c : Char} (member : c ∈ core) :
    c ∈ text := by
  obtain ⟨before, after, rfl, -, -⟩ := trimmed.ends
  exact List.mem_append_right _ (List.mem_append_left _ member)

theorem dropWhile_blank_of_head {text : List Char} (front : text.head?.all (!isBlank ·) = true) :
    text.dropWhile isBlank = text := by
  cases text with
  | nil => rfl
  | cons c rest => exact List.dropWhile_cons_of_neg (by simpa using front)

/-- What has no blanks at its ends is left as it is. -/
theorem Trimmed.trim_core {text core : List Char} (trimmed : Trimmed text core) : trim core = core := by
  have back : core.reverse.head?.all (!isBlank ·) = true := by
    rw [List.head?_reverse]
    exact trimmed.back
  rw [trim, dropWhile_blank_of_head trimmed.front, dropWhile_blank_of_head back, List.reverse_reverse]

theorem trim_trim (text : List Char) : trim (trim text) = trim text := (trim_trimmed text).trim_core

/-- Nothing is left of blanks alone, and of no other text. -/
theorem trim_eq_nil_iff {text : List Char} : trim text = [] ↔ ∀ c ∈ text, isBlank c = true := by
  constructor
  · intro empty
    obtain ⟨before, after, split, front, back⟩ := (trim_trimmed text).ends
    rw [split, empty, List.nil_append]
    exact List.forall_mem_append.2 ⟨List.all_eq_true.1 front, List.all_eq_true.1 back⟩
  · intro blank
    rw [trim, List.dropWhile_eq_nil_iff.2 blank]
    rfl

end ReqlLua.Text
