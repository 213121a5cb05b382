import ReqlLua.Proofs.Json.Scalar

/-! Passing over values. Reading goes on behind a value, whatever it holds: for each part of the grammar it is
said where passing over it ends, inside any lists and objects around it. -/

namespace ReqlLua.Json

variable {limit : Nat}

theorem skipFrom_nested {space : List Char} (blank : Blank space) (frame : Frame)
    (text : List Char) (frames : List Frame)
    (bound : (space ++ frame.opener :: text).length ≤ limit) :
    ∃ bound', skipFrom limit frames (space ++ frame.opener :: text) bound =
      skipOpened limit frames frame text bound' := by
  have notSpace : isSpace frame.opener = false := by cases frame <;> rfl
  have skipped := skipSpace_blank blank notSpace text
  refine ⟨by simp only [List.length_append, List.length_cons] at bound; omega, ?_⟩
  rw [skipFrom.eq_def]
  split
  · next empty _ =>
    rw [skipped] at empty
    cases empty
  · next same _ =>
    rw [skipped] at same
    cases same
    cases frame
    · exact if_pos rfl
    · exact (if_neg (by decide)).trans (if_pos rfl)

theorem skipFrom_scalar {space : List Char} (blank : Blank space) {c : Char}
    (goesOn : endsValue c = false) (notList : c ≠ '[') (notObject : c ≠ '{')
    {text rest : List Char}
    (taken : ∀ limit bound,
      ∃ shorter, skipScalar limit c text bound = .ok ⟨(), rest, shorter⟩)
    (frames : List Frame) (bound : (space ++ c :: text).length ≤ limit) :
    ∃ bound', skipFrom limit frames (space ++ c :: text) bound =
      skipNext limit frames rest bound' := by
  have skipped := skipSpace_blank blank (isSpace_of_endsValue goesOn) text
  have short : text.length < (space ++ c :: text).length := by
    simp only [List.length_append, List.length_cons]
    omega
  obtain ⟨shorter, done⟩ := taken _ short
  refine ⟨Nat.lt_of_lt_of_le shorter bound, ?_⟩
  rw [skipFrom.eq_def]
  split
  · next empty _ =>
    rw [skipped] at empty
    cases empty
  · next same _ =>
    rw [skipped] at same
    cases same
    simp only [notList, notObject, if_false, done]

theorem Frame.isSpace_closer (frame : Frame) : isSpace frame.closer = false := by
  cases frame <;> rfl

theorem skipOpened_done (frame : Frame) {space : List Char} (blank : Blank space)
    (frames : List Frame) (rest : List Char)
    (bound : (space ++ frame.closer :: rest).length < limit) :
    ∃ bound', skipOpened limit frames frame (space ++ frame.closer :: rest) bound =
      skipNext limit frames rest bound' := by
  have skipped := skipSpace_blank blank frame.isSpace_closer rest
  refine ⟨by simp only [List.length_append, List.length_cons] at bound; omega, ?_⟩
  rw [skipOpened.eq_def]
  split
  · next empty _ =>
    rw [skipped] at empty
    cases empty
  · next same _ =>
    rw [skipped] at same
    cases same
    exact if_pos rfl

theorem skipNext_done (frame : Frame) {space : List Char} (blank : Blank space)
    (frames : List Frame) (rest : List Char)
    (bound : (space ++ frame.closer :: rest).length < limit) :
    ∃ bound', skipNext limit (frame :: frames) (space ++ frame.closer :: rest) bound =
      skipNext limit frames rest bound' := by
  have skipped := skipSpace_blank blank frame.isSpace_closer rest
  refine ⟨by simp only [List.length_append, List.length_cons] at bound; omega, ?_⟩
  rw [skipNext.eq_def]
  simp only
  split
  · next empty _ =>
    rw [skipped] at empty
    cases empty
  · next same _ =>
    rw [skipped] at same
    cases same
    exact if_pos rfl

theorem skipKey_string {key gap space : List Char} (string : StringText key) (blank : Blank gap)
    (blank' : Blank space) (text : List Char)
    (bound : (space ++ '"' :: (key ++ '"' :: (gap ++ ':' :: text))).length < limit) :
    ∃ shorter, skipKey limit (space ++ '"' :: (key ++ '"' :: (gap ++ ':' :: text))) bound =
      .ok ⟨(), text, shorter⟩ := by
  have skipped := skipSpace_blank blank' (by decide : isSpace '"' = false)
    (key ++ '"' :: (gap ++ ':' :: text))
  obtain ⟨shorter, taken⟩ := skipQuoted_string string (gap ++ ':' :: text)
  have colon := readColon_blank blank text
  have less := readColon_length_lt colon
  have short : text.length < limit := by
    simp only [List.length_append, List.length_cons] at bound
    omega
  refine ⟨short, ?_⟩
  unfold skipKey
  split
  · next same _ =>
    rw [skipped] at same
    cases same
    rw [taken]
    simp only
    split
    · next refused =>
      rw [colon] at refused
      cases refused
    · next same =>
      rw [colon] at same
      cases same
      rfl
  · next empty _ =>
    rw [skipped] at empty
    cases empty
  · next le notQuote _ =>
    exact (notQuote _ (by rw [skipped] at le; exact le) skipped (proof_irrel_heq _ _)).elim

/-- A key and its colon are passed over where there must be a key. -/
theorem skipToValue_front {frame : Frame} {front : List Char} (fronts : Front frame front)
    {space : List Char} (blank : Blank space) (text : List Char)
    (bound : (space ++ (front ++ text)).length < limit) :
    ∃ behind shorter, Blank behind ∧
      skipToValue limit frame (space ++ (front ++ text)) bound = .ok ⟨(), behind ++ text, shorter⟩ := by
  cases fronts with
  | list => exact ⟨space, bound, blank, rfl⟩
  | @object key gap behind string gapBlank behindBlank =>
    simp only [List.cons_append, List.append_assoc] at bound ⊢
    obtain ⟨shorter, done⟩ := skipKey_string string gapBlank blank (behind ++ text) bound
    exact ⟨behind, shorter, behindBlank, done⟩

theorem skipOpened_item {frame : Frame} {front : List Char} (fronts : Front frame front)
    {space text : List Char} (blank : Blank space) (grammar : Grammar .value text)
    (frames : List Frame) (rest : List Char)
    (bound : (space ++ (front ++ (text ++ rest))).length < limit) :
    ∃ behind bound', Blank behind ∧
      skipOpened limit frames frame (space ++ (front ++ (text ++ rest))) bound =
        skipFrom limit (frame :: frames) (behind ++ (text ++ rest)) bound' := by
  obtain ⟨c, others, same, goesOn⟩ := fronts.starts grammar rest
  have notCloser : c ≠ frame.closer := by
    rintro rfl
    cases frame <;> exact Bool.noConfusion goesOn
  have skipped := skipSpace_blank blank (isSpace_of_endsValue goesOn) others
  have passes : ∀ limit (bound : (c :: others).length < limit), ∃ behind shorter, Blank behind ∧
      skipToValue limit frame (c :: others) bound = .ok ⟨(), behind ++ (text ++ rest), shorter⟩ := by
    rw [← same]
    exact fun limit bound => skipToValue_front fronts blank_nil (text ++ rest) bound
  simp only [same] at bound ⊢
  obtain ⟨behind, shorter, behindBlank, passed⟩ := passes ((space ++ c :: others).length + 1)
    (by rw [List.length_append]; omega)
  refine ⟨behind, by omega, behindBlank, ?_⟩
  rw [skipOpened.eq_def]
  split
  · next empty _ =>
    rw [skipped] at empty
    cases empty
  · next same _ =>
    rw [skipped] at same
    cases same
    simp only [notCloser, if_false, passed]

theorem skipNext_item {frame : Frame} {front : List Char} (fronts : Front frame front)
    {lead : List Char} (leads : Lead false lead) (frames : List Frame) (text : List Char)
    (bound : (lead ++ (front ++ text)).length < limit) :
    ∃ behind bound', Blank behind ∧
      skipNext limit (frame :: frames) (lead ++ (front ++ text)) bound =
        skipFrom limit (frame :: frames) (behind ++ text) bound' := by
  cases leads with
  | @next before space blank blank' =>
    simp only [List.append_assoc, List.cons_append] at bound ⊢
    have skipped := skipSpace_blank blank (by decide : isSpace ',' = false)
      (space ++ (front ++ text))
    have notCloser : ',' ≠ frame.closer := by cases frame <;> decide
    have short : (space ++ (front ++ text)).length <
        (before ++ ',' :: (space ++ (front ++ text))).length := by
      simp only [List.length_append, List.length_cons]
      omega
    obtain ⟨behind, shorter, behindBlank, passed⟩ := skipToValue_front fronts blank' text short
    refine ⟨behind, by omega, behindBlank, ?_⟩
    rw [skipNext.eq_def]
    simp only
    split
    · next empty _ =>
      rw [skipped] at empty
      cases empty
    · next same _ =>
      rw [skipped] at same
      cases same
      simp only [notCloser, if_false, if_true, passed]

/-- What passing over a part of a text comes to: going on behind the value, or behind the end of the list or
the object. -/
def Passed : Part → List Char → Prop
  | .value, text => ∀ (limit : Nat) (frames : List Frame) (space rest : List Char)
      (bound : (space ++ (text ++ rest)).length ≤ limit), Blank space → Ends rest →
      ∃ bound', skipFrom limit frames (space ++ (text ++ rest)) bound =
        skipNext limit frames rest bound'
  | .inside frame true, text => ∀ (limit : Nat) (frames : List Frame) (rest : List Char)
      (bound : (text ++ frame.closer :: rest).length < limit),
      ∃ bound', skipOpened limit frames frame (text ++ frame.closer :: rest) bound =
        skipNext limit frames rest bound'
  | .inside frame false, text => ∀ (limit : Nat) (frames : List Frame) (rest : List Char)
      (bound : (text ++ frame.closer :: rest).length < limit),
      ∃ bound', skipNext limit (frame :: frames) (text ++ frame.closer :: rest) bound =
        skipNext limit frames rest bound'

theorem Passed.of_scalar {c : Char} {text : List Char} (goesOn : endsValue c = false)
    (notList : c ≠ '[') (notObject : c ≠ '{')
    (taken : ∀ rest, Ends rest → ∀ limit bound,
      ∃ shorter, skipScalar limit c (text ++ rest) bound = .ok ⟨(), rest, shorter⟩) :
    Passed .value (c :: text) := by
  intro limit frames space rest bound blank ends
  exact skipFrom_scalar blank goesOn notList notObject (taken rest ends) frames bound

/-- A text of the grammar is passed over, with one case for each of its rules. -/
theorem Grammar.passed {part : Part} {text : List Char} (grammar : Grammar part text) :
    Passed part text := by
  induction grammar with
  | word word =>
    refine .of_scalar ?_ ?_ ?_ fun rest _ limit bound => skipScalar_word word rest bound
    all_goals cases word <;> decide
  | @string text string =>
    refine .of_scalar rfl (by decide) (by decide) fun rest _ limit bound => ?_
    simp only [List.append_assoc, List.cons_append, List.nil_append] at bound ⊢
    exact skipScalar_string string rest bound
  | number number =>
    obtain ⟨c, others, rfl, start⟩ := number.starts
    refine .of_scalar ?_ ?_ ?_ fun rest ends limit bound => skipScalar_number number ends rfl bound
    · rcases start with rfl | digit
      · rfl
      · exact endsValue_of_isDigit digit
    all_goals
      rintro rfl
      revert start
      decide
  | @nested frame text inside ih =>
    intro limit frames space rest bound blank _
    simp only [List.append_assoc, List.cons_append, List.nil_append] at bound ⊢
    obtain ⟨bound', opened⟩ := skipFrom_nested blank frame (text ++ frame.closer :: rest) frames bound
    obtain ⟨bound'', closed⟩ := ih limit frames rest bound'
    exact ⟨bound'', opened.trans closed⟩
  | @done frame isFirst space blank =>
    cases isFirst with
    | true => exact fun limit frames rest bound => skipOpened_done frame blank frames rest bound
    | false => exact fun limit frames rest bound => skipNext_done frame blank frames rest bound
  | @item frame isFirst lead front text others leads fronts first later value inside =>
    -- A first item stands behind an opening bracket, any other one behind a value.
    have ends := fun rest => later.ends rest
    cases isFirst with
    | true =>
      intro limit frames rest bound
      cases leads with
      | first blank =>
        simp only [List.append_assoc] at bound ⊢
        obtain ⟨behind, bound₁, blank', opened⟩ :=
          skipOpened_item fronts blank first frames (others ++ frame.closer :: rest) bound
        obtain ⟨bound₂, passed⟩ := value limit (frame :: frames) behind _ bound₁ blank' (ends rest)
        obtain ⟨bound₃, closed⟩ := inside limit frames rest bound₂
        exact ⟨bound₃, opened.trans (passed.trans closed)⟩
    | false =>
      intro limit frames rest bound
      simp only [List.append_assoc] at bound ⊢
      obtain ⟨behind, bound₁, blank', opened⟩ :=
        skipNext_item fronts leads frames (text ++ (others ++ frame.closer :: rest)) bound
      obtain ⟨bound₂, passed⟩ := value limit (frame :: frames) behind _ bound₁ blank' (ends rest)
      obtain ⟨bound₃, closed⟩ := inside limit frames rest bound₂
      exact ⟨bound₃, opened.trans (passed.trans closed)⟩

/-- Any value at all is passed over. -/
theorem skipValue_takes {text : List Char} (written : ValueText text) {rest : List Char}
    (ends : Ends rest) : Takes skipValue (text ++ rest) () rest := by
  obtain ⟨space, value, blank, grammar, rfl⟩ := written
  rw [List.append_assoc]
  obtain ⟨shorter, passed⟩ :=
    grammar.passed _ [] space rest (Nat.le_refl _) blank ends
  refine ⟨shorter, passed.trans ?_⟩
  rw [skipNext.eq_def]

end ReqlLua.Json
