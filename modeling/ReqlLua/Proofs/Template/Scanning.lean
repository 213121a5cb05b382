import ReqlLua.Proofs.Template.Search

/-! The scanner against the search. Inside an opener the scanner holds text in which no marker has
ended; a line feed lets go of all of it at once, and no marker that starts in it is lost. -/

namespace ReqlLua.Template

open Delimiters

/-- The text that the scanner holds in a mode. -/
def Mode.held : Mode → List Char
  | .outside => []
  | .inside raw => opener ++ raw.reverse

/-- What holds inside an opener: the marker that may still come is not shorter than what has been
read of it, and has kept to its line. -/
def Mode.Pending (text : List Char) : Mode → Prop
  | .outside => True
  | .inside raw => '\n' ∉ raw ∧ ∀ {other after},
      delimiters.Starts (opener ++ raw.reverse ++ text) other after → raw.length ≤ other.length

theorem around_eq (raw : List Char) : delimiters.around raw = opener ++ raw ++ closer := rfl

theorem starts_nonempty {text raw after : List Char} (starts : delimiters.Starts text raw after) :
    ∃ rest, text = '-' :: rest := by
  rw [starts.split, around_eq]
  exact ⟨_, rfl⟩

theorem not_mem_around {raw after text : List Char} (starts : delimiters.Starts text raw after) :
    '\n' ∉ delimiters.around raw := by
  have oneLine : '\n' ∉ raw := starts.oneLine
  rw [around_eq]
  simp [opener, closer, oneLine]

/-- A marker that starts behind the front of an opener and ends on the line of the opener makes a
longer marker at the opener. -/
theorem starts_earlier {raw before other : List Char} (rest text : List Char) (oneLine : '\n' ∉ raw)
    (inside : opener ++ raw = before ++ delimiters.around other ++ rest) (nonempty : other ≠ []) :
    ∃ longer, delimiters.Starts (opener ++ raw ++ text) longer (rest ++ text) := by
  have split : opener ++ raw = (before ++ opener ++ other) ++ (closer ++ rest) := by
    rw [inside, around_eq]
    simp only [List.append_assoc]
  have positive : 0 < other.length := List.length_pos_iff.2 nonempty
  obtain ⟨longer, same⟩ := List.prefix_of_prefix_length_le (List.prefix_append opener raw)
    (split ▸ List.prefix_append (before ++ opener ++ other) _)
    (by simp only [List.length_append]; omega)
  have tail : raw = longer ++ (closer ++ rest) := by
    rw [← same, List.append_assoc] at split
    exact List.append_cancel_left split
  have long : 0 < longer.length := by
    have lengths := congrArg List.length same
    simp only [List.length_append] at lengths
    omega
  refine ⟨longer, ?_, List.ne_nil_of_length_pos long, ?_⟩
  · rw [around_eq, tail]
    simp only [List.append_assoc]
  · intro member
    exact oneLine (tail ▸ List.mem_append_left _ member)

/-- No marker starts in an opener that its line has not closed. -/
theorem starts_behind_opener {raw text before behind other after : List Char}
    (oneLine : '\n' ∉ raw) (ends : text = [] ∨ ∃ rest, text = '\n' :: rest)
    (unclosed : ∀ {other after}, ¬delimiters.Starts (opener ++ raw ++ text) other after)
    (split : opener ++ raw ++ text = before ++ behind)
    (starts : delimiters.Starts behind other after) :
    (opener ++ raw).length < before.length := by
  refine Nat.lt_of_not_le fun short => ?_
  rw [starts.split, ← List.append_assoc] at split
  rcases List.append_eq_append_iff.1 split with ⟨beyond, within, crossing⟩ | ⟨beyond, inside, -⟩
  · -- Nothing of the marker lies beyond the line, for it would begin with the line feed.
    have none : beyond = [] := by
      cases beyond with
      | nil => rfl
      | cons c beyond =>
        rcases ends with rfl | ⟨rest, rfl⟩
        · exact absurd crossing (by simp)
        · obtain ⟨rfl, -⟩ := List.cons_eq_cons.1 crossing
          refine absurd ?_ (not_mem_around starts)
          have dropped := congrArg (List.drop before.length) within
          rw [List.drop_left, List.drop_append_of_le_length short] at dropped
          rw [dropped]
          exact List.mem_append_right _ List.mem_cons_self
    subst none
    rw [List.append_nil] at within
    obtain ⟨longer, earlier⟩ := starts_earlier [] text oneLine
      (by rw [within, List.append_nil]) starts.nonempty
    exact unclosed earlier
  · obtain ⟨longer, earlier⟩ := starts_earlier beyond text oneLine inside starts.nonempty
    exact unclosed earlier

/-- An opener that the text has not closed holds no marker to its end. -/
theorem not_starts_unclosed {raw text : List Char} (ends : text = [] ∨ ∃ rest, text = '\n' :: rest)
    (pending : (Mode.inside raw).Pending text) {other after : List Char} :
    ¬delimiters.Starts (opener ++ raw.reverse ++ text) other after := by
  intro starts
  obtain ⟨oneLine, least⟩ := pending
  have long := least starts
  have split := starts.split
  rw [around_eq] at split
  simp only [List.append_assoc] at split
  have split := List.append_cancel_left split
  obtain ⟨between, same⟩ := List.prefix_of_prefix_length_le (List.prefix_append raw.reverse text)
    (split ▸ List.prefix_append other _) (by rw [List.length_reverse]; exact long)
  rw [← same, List.append_assoc] at split
  have split := List.append_cancel_left split
  -- What follows the held text would have to close the marker, perhaps after more of its text.
  rcases ends with rfl | ⟨rest, rfl⟩
  · exact absurd split (by simp [closer])
  · cases between with
    | nil => exact absurd split (by simp [closer])
    | cons c between =>
      obtain ⟨rfl, -⟩ := List.cons_eq_cons.1 split
      have oneLine : '\n' ∉ other := starts.oneLine
      exact oneLine (same ▸ List.mem_append_right _ List.mem_cons_self)

/-- In what is held when its line ends, no marker starts. -/
theorem Mode.Pending.held_lt {raw text before behind other after : List Char}
    (pending : (Mode.inside raw).Pending text) (ends : text = [] ∨ ∃ rest, text = '\n' :: rest)
    (split : (Mode.inside raw).held ++ text = before ++ behind)
    (starts : delimiters.Starts behind other after) :
    (Mode.inside raw).held.length < before.length := by
  have oneLine : '\n' ∉ raw.reverse := fun member => pending.1 (List.mem_reverse.1 member)
  exact starts_behind_opener oneLine ends (not_starts_unclosed ends pending) split starts

/-- A character that neither ends the line nor closes the marker is read on. -/
theorem Mode.Pending.cons {raw rest : List Char} {c : Char}
    (pending : (Mode.inside raw).Pending (c :: rest)) (notLineFeed : c ≠ '\n')
    (notClosed : ∀ d others after, raw = d :: others → c = ']' → rest = ']' :: after → False) :
    (Mode.inside (c :: raw)).Pending rest := by
  obtain ⟨oneLine, least⟩ := pending
  refine ⟨?_, ?_⟩
  · intro member
    rcases List.mem_cons.1 member with same | member
    · exact notLineFeed same.symm
    · exact oneLine member
  · intro other after starts
    have held : opener ++ (c :: raw).reverse ++ rest = opener ++ raw.reverse ++ c :: rest := by
      simp
    rw [held] at starts
    apply Nat.lt_of_le_of_ne (least starts)
    intro long
    have split := starts.split
    simp only [around_eq, List.append_assoc] at split
    obtain ⟨same, closing⟩ := List.append_inj (List.append_cancel_left split)
      (by rw [List.length_reverse, long])
    obtain ⟨rfl, tail⟩ := List.cons_eq_cons.1 (closing : c :: rest = ']' :: ']' :: after)
    cases raw with
    | nil => exact starts.nonempty same.symm
    | cons d raw => exact notClosed d raw after rfl rfl tail

/-- The first closer behind an opener ends the first marker. -/
theorem Mode.Pending.first {raw rest : List Char} (someText : raw ≠ [])
    (pending : (Mode.inside raw).Pending (closer ++ rest)) :
    delimiters.First ((Mode.inside raw).held ++ (closer ++ rest)) [] raw.reverse rest := by
  obtain ⟨oneLine, least⟩ := pending
  have held : (Mode.inside raw).held ++ (closer ++ rest) =
      delimiters.around raw.reverse ++ rest := by
    rw [around_eq, List.append_assoc]
    rfl
  rw [held]
  constructor
  case split => rfl
  case starts =>
    refine ⟨rfl, ?_, ?_⟩
    · exact fun empty => someText (List.reverse_eq_nil_iff.1 empty)
    · exact fun member => oneLine (List.mem_reverse.1 member)
  case shortest =>
    intro other after starts
    rw [List.length_reverse]
    exact least (held ▸ starts)
  case leftmost => exact fun _ _ => Nat.zero_le _

/-- The scanner finds what the search finds in the text it holds and the text to come. -/
theorem scan_finds (literal : List Char) (mode : Mode) (text : List Char)
    (pending : mode.Pending text) :
    ∃ cuts, Finds (mode.held ++ text) cuts ∧
      scan literal mode text = cuts.extend literal.reverse := by
  fun_induction scan literal mode text with
  | case1 literal =>
    refine ⟨⟨[], []⟩, .rest ?_, by simp [Cuts.extend]⟩
    intro before behind raw after split starts
    obtain ⟨rest, rfl⟩ := starts_nonempty starts
    exact absurd split (by simp [Mode.held])
  | case2 literal rest ih =>
    obtain ⟨cuts, finds, same⟩ := ih ⟨by simp, fun _ => Nat.zero_le _⟩
    exact ⟨cuts, finds, same⟩
  | case3 literal c rest noOpener ih =>
    obtain ⟨cuts, finds, same⟩ := ih trivial
    refine ⟨cuts.extend [c], finds.extend [c] ?_, ?_⟩
    · intro before behind raw after split starts
      cases before with
      | nil =>
        have split := split.trans starts.split
        rw [around_eq] at split
        obtain ⟨rfl, tail⟩ := List.cons_eq_cons.1 split
        exact absurd tail (noOpener _ rfl)
      | cons => simp
    · rw [same, Cuts.extend_extend, List.reverse_cons]
  | case4 literal raw =>
    refine ⟨⟨[], (Mode.inside raw).held⟩, ?_, by simp [Cuts.extend, Mode.held]⟩
    rw [List.append_nil]
    apply Delimiters.Found.rest
    intro before behind other after split starts
    have far := pending.held_lt (.inl rfl) ((List.append_nil _).trans split) starts
    rw [split, List.length_append] at far
    omega
  | case5 literal raw rest ih =>
    obtain ⟨cuts, finds, same⟩ := ih trivial
    have held : (Mode.inside raw).held ++ '\n' :: rest =
        ((Mode.inside raw).held ++ ['\n']) ++ rest := by
      rw [List.append_assoc, List.singleton_append]
    rw [held]
    refine ⟨cuts.extend ((Mode.inside raw).held ++ ['\n']), finds.extend _ ?_, ?_⟩
    · intro before behind other after split starts
      have far := pending.held_lt (.inr ⟨rest, rfl⟩) (held.trans split) starts
      rw [List.length_append, List.length_singleton]
      omega
    · rw [same, Cuts.extend_extend]
      simp [Mode.held]
  | case6 literal c raw rest ih =>
    obtain ⟨cuts, finds, same⟩ := ih trivial
    rw [List.reverse_nil, Cuts.extend_nil] at same
    have first := Mode.Pending.first (List.cons_ne_nil c raw) pending
    refine ⟨cuts.behind [] (c :: raw).reverse, .marker first finds, ?_⟩
    rw [same]
    simp [Cuts.behind, Cuts.extend]
  | case7 literal raw c rest notLineFeed notClosed ih =>
    obtain ⟨cuts, finds, same⟩ := ih (pending.cons notLineFeed notClosed)
    have held : (Mode.inside (c :: raw)).held ++ rest = (Mode.inside raw).held ++ c :: rest := by
      simp [Mode.held]
    exact ⟨cuts, held ▸ finds, same⟩

end ReqlLua.Template
