/-! Cutting texts at separators, from the left. Where some character of the separator does not occur in
the parts, cutting undoes joining. -/

namespace ReqlLua.Text

/-- The text before the first separator and the text behind it. -/
def cutAt? (separator : List Char) : List Char → Option (List Char × List Char)
  | [] => none
  | c :: rest =>
    if separator.isPrefixOf (c :: rest) then some ([], (c :: rest).drop separator.length)
    else (cutAt? separator rest).map fun cut => (c :: cut.1, cut.2)

/-- The parts of a text between its separators. -/
def splitAt (separator text : List Char) : List (List Char) :=
  match cutAt? separator text with
  | none => [text]
  | some (part, rest) =>
    if rest.length < text.length then part :: splitAt separator rest else [text]
termination_by text.length

variable {separator : List Char} {mark : Char}

/-- A separator does not start before its place. -/
theorem not_prefix_unmarked (marked : mark ∈ separator) {part : List Char} (rest : List Char)
    (nonempty : part ≠ []) (free : mark ∉ part) : ¬separator <+: part ++ (separator ++ rest) := by
  rintro ⟨beyond, same⟩
  obtain ⟨lead, tail, rfl, once⟩ := List.eq_append_cons_of_mem marked
  -- The mark would have to stand among the characters of the part and the lead.
  have split : lead ++ mark :: (tail ++ beyond) = (part ++ lead) ++ (mark :: tail ++ rest) := by
    simpa only [List.append_assoc, List.cons_append] using same
  have positive : 0 < part.length := List.length_pos_iff.2 nonempty
  rcases List.append_eq_append_iff.1 split with ⟨between, long, follows⟩ | ⟨between, short, -⟩
  · cases between with
    | nil =>
      have lengths := congrArg List.length long
      simp only [List.length_append, List.length_nil] at lengths
      omega
    | cons c between =>
      obtain ⟨rfl, -⟩ := List.cons_eq_cons.1 follows
      have member : mark ∈ part ++ lead := long ▸ List.mem_append_right _ List.mem_cons_self
      rcases List.mem_append.1 member with member | member
      · exact free member
      · exact once member
  · have lengths := congrArg List.length short
    simp only [List.length_append] at lengths
    omega

theorem cutAt?_separated (marked : mark ∈ separator) {part : List Char} (rest : List Char)
    (free : mark ∉ part) : cutAt? separator (part ++ (separator ++ rest)) = some (part, rest) := by
  induction part with
  | nil =>
    have here : separator.isPrefixOf (separator ++ rest) = true :=
      List.isPrefixOf_iff_prefix.2 (List.prefix_append _ _)
    cases separated : separator ++ rest with
    | nil => exact absurd marked ((List.append_eq_nil_iff.1 separated).1 ▸ List.not_mem_nil)
    | cons c others =>
      rw [separated] at here
      rw [List.nil_append, cutAt?, if_pos here, ← separated, List.drop_left]
  | cons c part ih =>
    have away : ¬separator.isPrefixOf (c :: (part ++ (separator ++ rest))) = true := fun found =>
      not_prefix_unmarked marked rest (List.cons_ne_nil c part) free
        (List.isPrefixOf_iff_prefix.1 found)
    rw [List.cons_append, cutAt?, if_neg away,
      ih fun member => free (List.mem_cons_of_mem _ member)]
    rfl

/-- A reader that cuts a field off goes on behind the separator. -/
theorem bind_cutAt?_separated {α : Type} (marked : mark ∈ separator) {part rest : List Char}
    (free : mark ∉ part) {follow : List Char × List Char → Option α} :
    (cutAt? separator (part ++ (separator ++ rest))).bind follow = follow (part, rest) := by
  rw [cutAt?_separated marked rest free]
  rfl

theorem cutAt?_unmarked (marked : mark ∈ separator) {text : List Char} (free : mark ∉ text) :
    cutAt? separator text = none := by
  induction text with
  | nil => rfl
  | cons c text ih =>
    have away : ¬separator.isPrefixOf (c :: text) = true := by
      intro found
      obtain ⟨beyond, same⟩ := List.isPrefixOf_iff_prefix.1 found
      exact free (same ▸ List.mem_append_left _ marked)
    rw [cutAt?, if_neg away, ih fun member => free (List.mem_cons_of_mem _ member)]
    rfl

/-- Splitting undoes joining. -/
theorem splitAt_intercalate (marked : mark ∈ separator) {parts : List (List Char)}
    (nonempty : parts ≠ []) (free : ∀ part ∈ parts, mark ∉ part) :
    splitAt separator (separator.intercalate parts) = parts := by
  induction parts with
  | nil => exact absurd rfl nonempty
  | cons part later ih =>
    have freePart := free part List.mem_cons_self
    cases later with
    | nil => rw [List.intercalate_singleton, splitAt, cutAt?_unmarked marked freePart]
    | cons next others =>
      have positive : 0 < separator.length := List.length_pos_of_mem marked
      have shorter (rest : List Char) : rest.length < (part ++ (separator ++ rest)).length := by
        simp only [List.length_append]
        omega
      rw [List.intercalate_cons_cons, List.append_assoc, splitAt,
        cutAt?_separated marked _ freePart]
      simp only [if_pos (shorter _)]
      rw [ih (List.cons_ne_nil _ _) fun other member => free other (List.mem_cons_of_mem _ member)]

end ReqlLua.Text
