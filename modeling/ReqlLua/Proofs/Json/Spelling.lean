import ReqlLua.Json.Quoted

/-! The ways to spell a string in JSON. A reader makes the same text of all of them; the way strings
are written is one of them. -/

namespace ReqlLua.Json

variable {α : Type}

/-- The reader takes a value off the front of a text and leaves the rest. -/
def Takes (reader : Reader α) (text : List Char) (value : α) (rest : List Char) : Prop :=
  ∃ shorter, reader text = .ok ⟨value, rest, shorter⟩

/-- The ways to spell a character. A character beyond 16 bits may be spelled by two code units. -/
inductive Spells : Char → List Char → Prop where
  | plain {c : Char} (notQuote : c ≠ '"') (notEscape : c ≠ '\\') (printable : 0x20 ≤ c.toNat) :
      Spells c [c]
  | short {c letter : Char} (short : shortEscape? letter = some c) : Spells c ['\\', letter]
  | unit {first second third fourth : Char} {unit : Nat}
      (digits : hexUnit? first second third fourth = some unit) (notTrailing : isTrailing unit = false)
      (notLeading : isLeading unit = false) :
      Spells (Char.ofNat unit) ['\\', 'u', first, second, third, fourth]
  | pair {first second third fourth fifth sixth seventh eighth : Char} {leading trailing : Nat}
      (digits : hexUnit? first second third fourth = some leading)
      (isLead : isLeading leading = true)
      (moreDigits : hexUnit? fifth sixth seventh eighth = some trailing)
      (isTrail : isTrailing trailing = true) :
      Spells (Char.ofNat (0x10000 + (leading - 0xD800) * 0x400 + (trailing - 0xDC00)))
        ['\\', 'u', first, second, third, fourth, '\\', 'u', fifth, sixth, seventh, eighth]

/-- A text spelled character by character. -/
inductive Spelled : List Char → List Char → Prop where
  | nil : Spelled [] []
  | cons {c : Char} {spelling text more : List Char} (first : Spells c spelling)
      (others : Spelled text more) : Spelled (c :: text) (spelling ++ more)

theorem not_trailing_of_leading {unit : Nat} (leading : isLeading unit = true) :
    isTrailing unit = false := by
  simp only [isLeading, isTrailing, Bool.and_eq_true, decide_eq_true_eq, Bool.and_eq_false_iff,
    decide_eq_false_iff_not] at *
  omega

theorem readUnit_takes {first second third fourth : Char} {unit : Nat}
    (digits : hexUnit? first second third fourth = some unit) (rest : List Char) :
    Takes readUnit (first :: second :: third :: fourth :: rest) unit rest := by
  refine ⟨by simp only [List.length_cons]; omega, ?_⟩
  simp only [readUnit, digits]

theorem readCodePoint_unit {first second third fourth : Char} {unit : Nat}
    (digits : hexUnit? first second third fourth = some unit) (notTrailing : isTrailing unit = false)
    (notLeading : isLeading unit = false) (rest : List Char) :
    Takes readCodePoint (first :: second :: third :: fourth :: rest) (Char.ofNat unit) rest := by
  obtain ⟨shorter, taken⟩ := readUnit_takes digits rest
  refine ⟨shorter, ?_⟩
  unfold readCodePoint
  simp only [taken, bind, Except.bind, notTrailing, notLeading, Bool.false_eq_true, if_false, pure,
    Except.pure]

theorem readTrailing_takes {leading trailing : Nat} {first second third fourth : Char}
    (digits : hexUnit? first second third fourth = some trailing)
    (isTrail : isTrailing trailing = true) (rest : List Char) :
    Takes (readTrailing leading) ('\\' :: 'u' :: first :: second :: third :: fourth :: rest)
      (Char.ofNat (0x10000 + (leading - 0xD800) * 0x400 + (trailing - 0xDC00))) rest := by
  obtain ⟨shorter, taken⟩ := readUnit_takes digits rest
  refine ⟨by simp only [List.length_cons]; omega, ?_⟩
  unfold readTrailing
  simp only [taken, bind, Except.bind, isTrail, if_true, pure, Except.pure]

theorem readCodePoint_pair {first second third fourth : Char} {leading : Nat} {c : Char}
    {text rest : List Char} (digits : hexUnit? first second third fourth = some leading)
    (isLead : isLeading leading = true) (taken : Takes (readTrailing leading) text c rest) :
    Takes readCodePoint (first :: second :: third :: fourth :: text) c rest := by
  obtain ⟨shorter, unit⟩ := readUnit_takes digits text
  obtain ⟨shorter', second⟩ := taken
  refine ⟨Nat.lt_trans shorter' shorter, ?_⟩
  unfold readCodePoint
  simp only [unit, bind, Except.bind, not_trailing_of_leading isLead, isLead, Bool.false_eq_true,
    if_false, if_true, second, pure, Except.pure]
  rfl

theorem readEscape_short {c letter : Char} (short : shortEscape? letter = some c)
    (rest : List Char) : Takes readEscape (letter :: rest) c rest := by
  refine ⟨Nat.lt_succ_self _, ?_⟩
  simp only [readEscape, short]

theorem readEscape_codePoint {text rest : List Char} {c : Char}
    (taken : Takes readCodePoint text c rest) : Takes readEscape ('u' :: text) c rest := by
  obtain ⟨shorter, read⟩ := taken
  refine ⟨Nat.lt_succ_of_lt shorter, ?_⟩
  have long : shortEscape? 'u' = none := rfl
  unfold readEscape
  simp only [long, if_true, read, bind, Except.bind]
  rfl

theorem readBody_escape {text rest : List Char} {c : Char} (taken : Takes readEscape text c rest)
    (limit : Nat) (read : List Char) (bound : ('\\' :: text).length ≤ limit)
    (short : rest.length ≤ limit) :
    readBody limit read ('\\' :: text) bound = readBody limit (c :: read) rest short := by
  obtain ⟨shorter, escaped⟩ := taken
  rw [readBody]
  simp only [show ('\\' : Char) ≠ '"' by decide, if_false, if_true, escaped]

/-- However a character is spelled, reading goes on behind it. -/
theorem readBody_spells {c : Char} {spelling : List Char} (spells : Spells c spelling)
    (limit : Nat) (read rest : List Char) (bound : (spelling ++ rest).length ≤ limit)
    (short : rest.length ≤ limit) :
    readBody limit read (spelling ++ rest) bound = readBody limit (c :: read) rest short := by
  cases spells with
  | plain notQuote notEscape printable =>
    simp only [List.singleton_append]
    rw [readBody]
    simp only [notQuote, notEscape, Nat.not_lt.2 printable, if_false]
  | short short => exact readBody_escape (readEscape_short short rest) limit read bound _
  | unit digits notTrailing notLeading =>
    have taken := readCodePoint_unit digits notTrailing notLeading rest
    exact readBody_escape (readEscape_codePoint taken) limit read bound _
  | pair digits isLead moreDigits isTrail =>
    have taken := readCodePoint_pair digits isLead (readTrailing_takes moreDigits isTrail rest)
    exact readBody_escape (readEscape_codePoint taken) limit read bound _

theorem readBody_spelled {text spelling : List Char} (spelled : Spelled text spelling)
    (limit : Nat) (read rest : List Char) (bound : (spelling ++ '"' :: rest).length ≤ limit)
    (short : rest.length < limit) :
    readBody limit read (spelling ++ '"' :: rest) bound =
      .ok ⟨String.ofList (read.reverse ++ text), rest, short⟩ := by
  induction spelled generalizing read with
  | nil =>
    simp only [List.nil_append]
    rw [readBody]
    simp only [if_true, List.append_nil]
  | cons first others ih =>
    simp only [List.append_assoc]
    rw [readBody_spells first limit read _ _ (by simp only [List.length_append] at *; omega),
      ih (_ :: read), List.reverse_cons, List.append_assoc, List.singleton_append]

/-- However a text is spelled, it is read. -/
theorem readQuoted_spelled {text spelling : List Char} (spelled : Spelled text spelling)
    (rest : List Char) :
    Takes readQuoted (spelling ++ '"' :: rest) (String.ofList text) rest := by
  have short : rest.length < (spelling ++ '"' :: rest).length := by
    simp only [List.length_append, List.length_cons]
    omega
  exact ⟨short, readBody_spelled spelled _ [] rest _ short⟩

/-! ### Written strings -/

theorem hexUnit?_control {code : Nat} (small : code < 0x20) :
    hexUnit? '0' '0' (Nat.digitChar (code / 16)) (Nat.digitChar (code % 16)) = some code := by
  have table : ∀ code < 0x20,
      hexUnit? '0' '0' (Nat.digitChar (code / 16)) (Nat.digitChar (code % 16)) = some code := by
    decide
  exact table code small

theorem spells_escape (c : Char) : Spells c (escape c) := by
  unfold escape
  by_cases quote : c = '"'
  · rw [if_pos quote, quote]
    exact .short rfl
  rw [if_neg quote]
  by_cases backslash : c = '\\'
  · rw [if_pos backslash, backslash]
    exact .short rfl
  rw [if_neg backslash]
  by_cases backspace : c = '\x08'
  · rw [if_pos backspace, backspace]
    exact .short rfl
  rw [if_neg backspace]
  by_cases formFeed : c = '\x0c'
  · rw [if_pos formFeed, formFeed]
    exact .short rfl
  rw [if_neg formFeed]
  by_cases lineFeed : c = '\n'
  · rw [if_pos lineFeed, lineFeed]
    exact .short rfl
  rw [if_neg lineFeed]
  by_cases carriageReturn : c = '\r'
  · rw [if_pos carriageReturn, carriageReturn]
    exact .short rfl
  rw [if_neg carriageReturn]
  by_cases tab : c = '\t'
  · rw [if_pos tab, tab]
    exact .short rfl
  rw [if_neg tab]
  by_cases control : c.toNat < 0x20
  · rw [if_pos control]
    have spells := Spells.unit (hexUnit?_control control) (by simp [isTrailing]; omega)
      (by simp [isLeading]; omega)
    rwa [Char.ofNat_toNat] at spells
  · rw [if_neg control]
    exact .plain quote backslash (Nat.le_of_not_lt control)

theorem spelled_escaped (text : List Char) : Spelled text (text.flatMap escape) := by
  induction text with
  | nil => exact .nil
  | cons c text ih => exact .cons (spells_escape c) ih

end ReqlLua.Json
