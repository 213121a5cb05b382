import ReqlLua.Proofs.Template.Lines

/-! Texts that make no markers. Where the texts put in for markers hold no opener and no part of one at their ends,
what comes out has no marker: a new opener could only stand in a literal, and there it is open for good. -/

namespace ReqlLua.Template

open Delimiters Text

/-- A text that makes no opener, neither by itself nor with the literals beside it. -/
structure Inert (text : String) : Prop where
  nonempty : text ≠ ""
  noOpener : ¬opener <:+: text.toList
  front : ∀ c ∈ text.toList.head?, c ≠ '-' ∧ c ≠ '['
  back : ∀ c ∈ text.toList.getLast?, c ≠ '-' ∧ c ≠ '['

/-- No marker starts anywhere in the text. -/
def Unmarked (text : List Char) : Prop :=
  ∀ before behind raw after, text = before ++ behind → ¬delimiters.Starts behind raw after

/-! ### Openers in joined texts -/

theorem not_mem_opener {c : Char} : c ∉ opener ↔ c ≠ '-' ∧ c ≠ '[' := by
  simp [opener]

/-- An opener that is not in one of two texts lies across their border, so one of its characters ends the first and
one begins the second. -/
theorem opener_apart {first second before tail : List Char}
    (border : (∀ c ∈ first.getLast?, c ∉ opener) ∨ ∀ c ∈ second.head?, c ∉ opener)
    (split : first ++ second = before ++ (opener ++ tail)) :
    (∃ inner, first = before ++ (opener ++ inner) ∧ tail = inner ++ second) ∨
      ∃ between, before = first ++ between ∧ second = between ++ (opener ++ tail) := by
  rcases List.append_eq_append_iff.1 split with ⟨between, rfl, rfl⟩ | ⟨ending, rfl, longer⟩
  · exact .inr ⟨between, rfl, rfl⟩
  · rcases List.append_eq_append_iff.1 longer with ⟨inner, rfl, rfl⟩ | ⟨beginning, parts, rfl⟩
    · exact .inl ⟨inner, rfl, rfl⟩
    · rcases List.eq_nil_or_concat ending with rfl | ⟨initial, last, rfl⟩
      · refine .inr ⟨[], ?_, ?_⟩
        · simp only [List.append_nil]
        · rw [parts, List.nil_append, List.nil_append]
      · cases beginning with
        | nil =>
          refine .inl ⟨[], ?_, rfl⟩
          rw [parts, List.append_nil, List.append_nil]
        | cons c beginning =>
          have last_mem : last ∈ opener := by simp [parts]
          have c_mem : c ∈ opener := by simp [parts]
          rcases border with ends | begins
          · exact absurd last_mem (ends last (by simp))
          · exact absurd c_mem (begins c (by simp))

/-! ### What comes out -/

/-- One literal and the text behind it. -/
theorem unmarked_piece {source literal raw rest later : List Char} {text : String}
    (first : delimiters.First source literal raw rest) (inert : Inert text) (unmarked : Unmarked later) :
    Unmarked (literal ++ (text.toList ++ later)) := by
  intro before behind other after split starts
  obtain rfl := starts_opener starts
  have begins : ∀ c ∈ (text.toList ++ later).head?, c ∉ opener := by
    intro c member
    rw [List.head?_append, Option.mem_def, Option.or_eq_some_iff] at member
    rcases member with begins | ⟨empty, -⟩
    · exact not_mem_opener.2 (inert.front c begins)
    · exact absurd (String.toList_eq_nil_iff.1 (List.head?_eq_none_iff.1 empty)) inert.nonempty
  have ends : ∀ c ∈ text.toList.getLast?, c ∉ opener := fun c member =>
    not_mem_opener.2 (inert.back c member)
  rcases opener_apart (.inr begins) split with ⟨inner, opened, follows⟩ | ⟨between, -, split⟩
  · rw [follows, ← List.append_assoc] at starts
    exact not_starts_in_literal first opened _ starts
  · rcases opener_apart (.inl ends) split with ⟨inner, opened, -⟩ | ⟨between', -, split⟩
    · exact inert.noOpener ⟨between, inner, by rw [opened, List.append_assoc]⟩
    · exact unmarked _ _ _ _ split starts

/-- All literals and the texts between them. -/
theorem unmarked_pieces {source last : List Char} {marked : List (List Char × List Char)}
    (found : delimiters.Found source marked last) (text : List Char → String)
    (inert : ∀ piece ∈ marked, Inert (text piece.2)) :
    Unmarked (marked.flatMap (fun piece => piece.1 ++ (text piece.2).toList) ++ last) := by
  induction found with
  | rest none => exact fun _ _ _ _ split => none split
  | marker first later ih =>
    obtain ⟨inertFirst, inertLater⟩ := List.forall_mem_cons.1 inert
    rw [List.flatMap_cons, List.append_assoc, List.append_assoc]
    exact unmarked_piece first inertFirst (ih inertLater)

/-! ### Splicing twice -/

variable {substitutions : Substitutions}

theorem splice_ok {source output : String} (succeeded : splice source substitutions = .ok output) :
    (∀ piece ∈ (ofSource source).pieces, ∃ text, substitutions.get? piece.key = some text) ∧
      output = String.join ((ofSource source).pieces.map (spliced substitutions)) ++
        (ofSource source).tail := by
  rw [splice, render] at succeeded
  rcases resolved_or_first substitutions (ofSource source).pieces with
    resolved | ⟨before, piece, behind, split, resolved, missing⟩
  · rw [renderPieces_resolved resolved] at succeeded
    exact ⟨resolved, (Except.ok.inj succeeded).symm⟩
  · rw [split, renderPieces_unresolved resolved missing] at succeeded
    cases succeeded

theorem unmarked_output {source output : String}
    (inert : ∀ piece ∈ (ofSource source).pieces, ∀ text,
      substitutions.get? piece.key = some text → Inert text)
    (succeeded : splice source substitutions = .ok output) : Unmarked output.toList := by
  obtain ⟨resolved, rfl⟩ := splice_ok succeeded
  let textFor (raw : List Char) : String := (substitutions.get? (nameIn raw)).getD ""
  have texts : ∀ piece ∈ textsOf (ofSource source).pieces, Inert (textFor piece.2) := by
    refine List.forall_mem_map.2 fun piece member => ?_
    obtain ⟨text, found⟩ := resolved piece member
    change Inert ((substitutions.get? piece.key).getD "")
    rw [found]
    exact inert piece member text found
  have unmarked := unmarked_pieces (ofSource_finds source) textFor texts
  rw [List.flatMap_map] at unmarked
  rw [String.toList_append, String.toList_join, List.flatMap_map]
  simp only [spliced, String.toList_append]
  exact unmarked

/-- A text without a marker is one literal, and splicing gives it back. -/
theorem splice_unmarked {source : String} (unmarked : Unmarked source.toList) :
    (ofSource source).pieces = [] ∧ ∀ substitutions, splice source substitutions = .ok source := by
  have rest : Finds source.toList ⟨[], source.toList⟩ := .rest fun split => unmarked _ _ _ _ split
  refine ⟨?_, fun substitutions => ?_⟩
  · exact List.map_eq_nil_iff.1 ((ofSource_finds source).unique rest).1
  · rw [splice_of_finds rest, Cuts.render]
    apply congrArg Except.ok
    exact String.empty_append.trans String.ofList_toList

end ReqlLua.Template
