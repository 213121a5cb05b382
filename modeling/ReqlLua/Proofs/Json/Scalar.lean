import ReqlLua.Proofs.Json.Grammar

/-! Passing over values that hold no others: strings, numbers and words. -/

namespace ReqlLua.Json

variable {limit : Nat}

/-! ### Strings -/

/-- The end of a string is found, whatever its code units stand for. -/
theorem skipBody_string {text : List Char} (string : StringText text) (limit : Nat)
    (rest : List Char) (bound : (text ++ '"' :: rest).length ≤ limit) :
    ∃ shorter, skipBody limit (text ++ '"' :: rest) bound = .ok ⟨(), rest, shorter⟩ := by
  induction string with
  | nil =>
    refine ⟨bound, ?_⟩
    simp only [List.nil_append]
    rw [skipBody.eq_def]
    simp only [if_true]
  | plain notQuote notEscape printable others ih =>
    obtain ⟨shorter, done⟩ := ih (Nat.le_of_succ_le bound)
    refine ⟨shorter, ?_⟩
    simp only [List.cons_append]
    rw [skipBody.eq_def]
    simp only [notQuote, notEscape, Nat.not_lt.2 printable, if_false, done]
  | short known others ih =>
    obtain ⟨shorter, done⟩ := ih (Nat.le_of_succ_le (Nat.le_of_succ_le bound))
    refine ⟨shorter, ?_⟩
    simp only [List.cons_append]
    rw [skipBody.eq_def]
    simp only [show ('\\' : Char) ≠ '"' by decide, if_false, if_true, known, done]
  | @unit first second third fourth unit text digits others ih =>
    obtain ⟨shorter, taken⟩ := readUnit_takes digits (text ++ '"' :: rest)
    have bound' : (text ++ '"' :: rest).length ≤ limit := by
      simp only [List.cons_append, List.length_cons] at bound
      omega
    obtain ⟨shorter', done⟩ := ih bound'
    have long : (shortEscape? 'u').isSome = false := rfl
    refine ⟨shorter', ?_⟩
    simp only [List.cons_append]
    rw [skipBody.eq_def]
    simp only [show ('\\' : Char) ≠ '"' by decide, if_false, if_true, long, Bool.false_eq_true,
      taken, done]

theorem skipQuoted_string {text : List Char} (string : StringText text) (rest : List Char) :
    Takes skipQuoted (text ++ '"' :: rest) () rest :=
  skipBody_string string _ rest (Nat.le_refl _)

/-! ### Numbers -/

theorem IsDigits.starts {digits : List Char} (isDigits : IsDigits digits) (rest : List Char) :
    startsWithDigit (digits ++ rest) = true := by
  obtain ⟨c, others, rfl⟩ := List.exists_cons_of_ne_nil isDigits.nonempty
  exact isDigits.digits c List.mem_cons_self

theorem PowerText.stops {power rest : List Char} (isPower : PowerText power) (ends : Ends rest) :
    startsWithDigit (power ++ rest) = false := by
  cases isPower with
  | none => exact startsWithDigit_ends ends
  | some letters => rcases letters with rfl | rfl <;> rfl

theorem PowerText.no_point {power rest text : List Char} (isPower : PowerText power)
    (ends : Ends rest) : power ++ rest ≠ '.' :: text := by
  intro same
  cases isPower with
  | none =>
    have point : '.' ∈ rest.head? := by
      rw [← List.nil_append rest, same, List.head?_cons]
      rfl
    exact absurd rfl (endsValue_ne (ends '.' point) (by decide))
  | some letters => rcases letters with rfl | rfl <;> cases same

theorem skipSign_digits {digits : List Char} (isDigits : IsDigits digits) (rest : List Char) :
    skipSign (digits ++ rest) = digits ++ rest := by
  obtain ⟨c, others, rfl⟩ := List.exists_cons_of_ne_nil isDigits.nonempty
  have digit := isDigits.digits c List.mem_cons_self
  rw [List.cons_append]
  unfold skipSign
  split
  · next same =>
    cases same
    exact absurd digit (by decide)
  · next same =>
    cases same
    exact absurd digit (by decide)
  · rfl

theorem skipScale_power {power rest : List Char} (isPower : PowerText power) (ends : Ends rest)
    (bound : (power ++ rest).length < limit) :
    ∃ shorter, skipScale (power ++ rest) bound = .ok ⟨(), rest, shorter⟩ := by
  cases isPower with
  | none =>
    refine ⟨bound, ?_⟩
    simp only [List.nil_append]
    cases rest with
    | nil => rfl
    | cons c rest =>
      have small := endsValue_ne (ends c rfl) (show endsValue 'e' = false by decide)
      have large := endsValue_ne (ends c rfl) (show endsValue 'E' = false by decide)
      simp only [skipScale, small, large, decide_false, Bool.or_self, Bool.false_eq_true, if_false]
  | @some letter sign digits letters signs isDigits =>
    have short : rest.length < limit := by
      simp only [List.length_append, List.length_cons] at bound
      omega
    have marks : (letter = 'e' || letter = 'E') = true := by
      rcases letters with rfl | rfl <;> rfl
    have unsigned : skipSign (sign ++ (digits ++ rest)) = digits ++ rest := by
      rcases signs with rfl | rfl | rfl
      · exact skipSign_digits isDigits rest
      · rfl
      · rfl
    have skipped := skipDigits_append isDigits.digits (startsWithDigit_ends ends)
    refine ⟨short, ?_⟩
    simp only [List.cons_append, List.append_assoc, skipScale, marks, if_true, unsigned,
      isDigits.starts rest, skipped]

/-- The whole part of a number is passed over up to what is no digit. -/
theorem WholeText.leads {c : Char} {digits after : List Char} (isWhole : WholeText (c :: digits))
    (stops : startsWithDigit after = false) :
    c.isDigit = true ∧ (c = '0' && startsWithDigit (digits ++ after)) = false ∧
      skipDigits (digits ++ after) = after := by
  cases isWhole with
  | digits isDigits leading =>
    have others : ∀ d ∈ digits, d.isDigit = true := fun d member =>
      isDigits.digits d (List.mem_cons_of_mem _ member)
    refine ⟨isDigits.digits c List.mem_cons_self, ?_, skipDigits_append others stops⟩
    by_cases zero : c = '0'
    · rw [leading zero, List.nil_append, stops, Bool.and_false]
    · rw [decide_eq_false zero, Bool.false_and]

theorem skipNumber_whole {c : Char} {digits after : List Char} (isWhole : WholeText (c :: digits))
    (stops : startsWithDigit after = false) (noPoint : ∀ text, after ≠ '.' :: text)
    (bound : (c :: (digits ++ after)).length ≤ limit) :
    ∃ short, skipNumber (c :: (digits ++ after)) bound = skipScale after short := by
  obtain ⟨digit, needless, skipped⟩ := isWhole.leads stops
  have short : after.length < limit := by
    simp only [List.length_cons, List.length_append] at bound
    omega
  refine ⟨short, ?_⟩
  unfold skipNumber
  simp only [digit, Bool.not_true, Bool.false_eq_true, if_false, needless]
  split
  · next same _ =>
    rw [skipped] at same
    exact (noPoint _ same).elim
  · next short _ =>
    -- The bound speaks of the text that is left, so it is rewritten along with it.
    revert short
    rw [skipped]
    intro short _
    rfl

theorem skipNumber_fraction {c : Char} {digits fraction : List Char}
    (isWhole : WholeText (c :: digits)) (starts : startsWithDigit fraction = true)
    (bound : (c :: (digits ++ '.' :: fraction)).length ≤ limit) :
    ∃ short, skipNumber (c :: (digits ++ '.' :: fraction)) bound =
      skipScale (skipDigits fraction) short := by
  have stops : startsWithDigit ('.' :: fraction) = false := rfl
  obtain ⟨digit, needless, skipped⟩ := isWhole.leads stops
  have less := skipDigits_length_le fraction
  have short : (skipDigits fraction).length < limit := by
    simp only [List.length_cons, List.length_append] at bound
    omega
  refine ⟨short, ?_⟩
  unfold skipNumber
  simp only [digit, Bool.not_true, Bool.false_eq_true, if_false, needless]
  split
  · next same _ =>
    rw [skipped] at same
    cases same
    simp only [starts, if_true]
  · next short noPoint =>
    have short' := short
    rw [skipped] at short'
    exact (noPoint _ short' skipped (proof_irrel_heq _ _)).elim

/-- A number is passed over if something follows that ends it. -/
theorem skipNumber_parts {whole fraction power rest : List Char} (isWhole : WholeText whole)
    (isFraction : FractionText fraction) (isPower : PowerText power) (ends : Ends rest)
    (bound : (whole ++ (fraction ++ (power ++ rest))).length ≤ limit) :
    ∃ shorter, skipNumber (whole ++ (fraction ++ (power ++ rest))) bound =
      .ok ⟨(), rest, shorter⟩ := by
  have stops := isPower.stops ends
  obtain ⟨c, digits, rfl⟩ : ∃ c digits, whole = c :: digits := by
    cases isWhole
    exact ⟨_, _, rfl⟩
  cases isFraction with
  | none =>
    obtain ⟨short, skipped⟩ :=
      skipNumber_whole isWhole stops (fun _ => isPower.no_point ends) bound
    obtain ⟨shorter, done⟩ := skipScale_power isPower ends short
    exact ⟨shorter, skipped.trans done⟩
  | @some more isDigits =>
    obtain ⟨short, skipped⟩ := skipNumber_fraction isWhole (isDigits.starts (power ++ rest)) bound
    simp only [skipDigits_append isDigits.digits stops] at skipped short
    obtain ⟨shorter, done⟩ := skipScale_power isPower ends short
    exact ⟨shorter, skipped.trans done⟩

/-! ### All three -/

theorem readWord_append (word rest : List Char) : readWord word (word ++ rest) = .ok rest := by
  induction word with
  | nil => rfl
  | cons c word ih => rw [List.cons_append, readWord, if_pos rfl, ih]

/-- A word is passed over behind its first letter. -/
theorem skipScalar_word {c : Char} {letters : List Char} (word : WordText c letters)
    (rest : List Char) (bound : (letters ++ rest).length < limit) :
    ∃ shorter, skipScalar limit c (letters ++ rest) bound = .ok ⟨(), rest, shorter⟩ := by
  have read := readWord_append letters rest
  refine ⟨Nat.lt_of_le_of_lt (readWord_length_le read) bound, ?_⟩
  cases word
  all_goals
    simp only [skipScalar]
    simp only [if_true, if_false, Char.reduceEq]
    split
    · next refused =>
      rw [read] at refused
      cases refused
    · next same =>
      rw [read] at same
      cases same
      rfl

theorem skipScalar_string {text : List Char} (string : StringText text) (rest : List Char)
    (bound : (text ++ '"' :: rest).length < limit) :
    ∃ shorter, skipScalar limit '"' (text ++ '"' :: rest) bound = .ok ⟨(), rest, shorter⟩ := by
  obtain ⟨shorter, taken⟩ := skipQuoted_string string rest
  refine ⟨Nat.lt_trans shorter bound, ?_⟩
  simp only [skipScalar]
  simp only [if_true, if_false, Char.reduceEq, Char.reduceIsDigit, Bool.false_eq_true, taken]
  rfl

theorem skipScalar_digit {c : Char} (digit : c.isDigit = true) {rest : List Char}
    (bound : rest.length < limit) :
    skipScalar limit c rest bound = skipNumber (c :: rest) bound := by
  have apart : ∀ d : Char, d.isDigit = false → c ≠ d := by
    rintro d notDigit rfl
    rw [digit] at notDigit
    exact Bool.noConfusion notDigit
  simp only [skipScalar]
  rw [if_neg (apart 'n' rfl), if_neg (apart 't' rfl), if_neg (apart 'f' rfl), if_neg (apart '-' rfl),
    if_pos digit]

theorem skipScalar_number {text : List Char} (number : NumberText text) {rest : List Char}
    (ends : Ends rest) {c : Char} {others : List Char} (same : text = c :: others)
    (bound : (others ++ rest).length < limit) :
    ∃ shorter, skipScalar limit c (others ++ rest) bound = .ok ⟨(), rest, shorter⟩ := by
  cases number with
  | @parts sign whole fraction power signs isWhole isFraction isPower =>
    rcases signs with rfl | rfl
    · have digit : c.isDigit = true := by
        cases isWhole with
        | digits isDigits =>
          cases same
          exact isDigits.digits _ List.mem_cons_self
      have text : c :: (others ++ rest) = whole ++ (fraction ++ (power ++ rest)) := by
        rw [← List.cons_append, ← same, List.nil_append, List.append_assoc, List.append_assoc]
      have bound' : (whole ++ (fraction ++ (power ++ rest))).length ≤ limit := text ▸ bound
      obtain ⟨shorter, done⟩ := skipNumber_parts isWhole isFraction isPower ends bound'
      refine ⟨shorter, ?_⟩
      rw [skipScalar_digit digit]
      simp only [text, done]
    · cases same
      simp only [List.append_eq, List.append_assoc, List.nil_append] at bound ⊢
      obtain ⟨shorter, done⟩ :=
        skipNumber_parts isWhole isFraction isPower ends (Nat.le_of_lt bound)
      refine ⟨shorter, ?_⟩
      simp only [skipScalar]
      simp only [if_true, if_false, Char.reduceEq, done]

end ReqlLua.Json
