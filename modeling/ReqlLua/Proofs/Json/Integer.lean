import Mathlib.Data.Nat.Init
import ReqlLua.Json.Record
import ReqlLua.Proofs.Json.Spelling
import ReqlLua.Proofs.Text.Numerals

/-! Reading whole numbers. The digits of a number within 64 bits are read as that number if something
follows that ends a value. -/

namespace ReqlLua.Json

open Text

/-! ### Space -/

def Blank (space : List Char) : Prop := ∀ c ∈ space, isSpace c = true

theorem blank_nil : Blank [] := fun _ member => absurd member List.not_mem_nil

theorem blank_single {c : Char} (space : isSpace c = true) : Blank [c] := by
  intro d member
  cases List.mem_singleton.1 member
  exact space

theorem skipSpace_blank {space : List Char} (blank : Blank space) {c : Char}
    (notSpace : isSpace c = false) (rest : List Char) :
    skipSpace (space ++ c :: rest) = c :: rest := by
  rw [skipSpace, List.dropWhile_append_of_pos blank, List.dropWhile_cons_of_neg]
  rw [notSpace]
  decide

/-! ### Ends of values -/

def endsValue (c : Char) : Bool := isSpace c || c == ',' || c == '}' || c == ']'

/-- The text does not go on with the value before it. -/
def Ends (rest : List Char) : Prop := ∀ c ∈ rest.head?, endsValue c = true

theorem endsValue_ne {c d : Char} (ends : endsValue c = true) (goesOn : endsValue d = false) :
    c ≠ d := by
  rintro rfl
  rw [ends] at goesOn
  exact Bool.noConfusion goesOn

theorem isDigit_of_endsValue {c : Char} (ends : endsValue c = true) : c.isDigit = false := by
  simp only [endsValue, isSpace, Bool.or_eq_true, beq_iff_eq] at ends
  rcases ends with (((((rfl | rfl) | rfl) | rfl) | rfl) | rfl) | rfl <;> rfl

theorem endsValue_of_isDigit {c : Char} (digit : c.isDigit = true) : endsValue c = false := by
  by_cases ends : endsValue c = true
  · rw [isDigit_of_endsValue ends] at digit
    exact Bool.noConfusion digit
  · exact eq_false_of_ne_true ends

theorem isSpace_of_endsValue {c : Char} (goesOn : endsValue c = false) : isSpace c = false := by
  simp only [endsValue, Bool.or_eq_false_iff] at goesOn
  exact goesOn.1.1.1

theorem startsWithDigit_ends {rest : List Char} (ends : Ends rest) : startsWithDigit rest = false := by
  cases rest with
  | nil => rfl
  | cons c rest => exact isDigit_of_endsValue (ends c rfl)

/-- Digits are passed over up to what is none. -/
theorem skipDigits_append {digits rest : List Char} (isDigits : ∀ c ∈ digits, c.isDigit = true)
    (stops : startsWithDigit rest = false) : skipDigits (digits ++ rest) = rest := by
  rw [skipDigits, List.dropWhile_append_of_pos isDigits]
  cases rest with
  | nil => rfl
  | cons c rest => exact List.dropWhile_cons_of_neg (Bool.eq_false_iff.1 stops)

theorem skipDigits_ends {rest : List Char} (ends : Ends rest) : skipDigits rest = rest :=
  @skipDigits_append [] rest (fun _ member => absurd member List.not_mem_nil)
    (startsWithDigit_ends ends)

/-! ### Digits -/

theorem le_foldl_digits (value : Nat) (digits : List Char) :
    value ≤ digits.foldl (fun value c => 10 * value + digitValue c) value := by
  induction digits generalizing value with
  | nil => exact Nat.le_refl _
  | cons c digits ih =>
    have grown := ih (10 * value + digitValue c)
    rw [List.foldl_cons]
    omega

theorem absorb_digits {limit : Nat} (value : Nat) {digits rest : List Char}
    (isDigits : ∀ c ∈ digits, c.isDigit = true) (ends : Ends rest)
    (below : digits.foldl (fun value c => 10 * value + digitValue c) value < limit) :
    absorb limit value (digits ++ rest) =
      (digits.foldl (fun value c => 10 * value + digitValue c) value, rest) := by
  induction digits generalizing value with
  | nil =>
    cases rest with
    | nil => rfl
    | cons c rest =>
      rw [List.nil_append, absorb, isDigit_of_endsValue (ends c rfl)]
      rfl
  | cons c digits ih =>
    rw [List.foldl_cons] at below ⊢
    have grown := le_foldl_digits (10 * value + digitValue c) digits
    have small : 10 * value + digitValue c < limit := Nat.lt_of_le_of_lt grown below
    simp only [List.cons_append, absorb, isDigits c List.mem_cons_self, small, decide_true,
      Bool.and_self, if_true]
    exact ih _ (fun d member => isDigits d (List.mem_cons_of_mem _ member)) below

theorem head_toDigits {n : Nat} (positive : 0 < n) {c : Char} {digits : List Char}
    (shape : Nat.toDigits 10 n = c :: digits) : c ≠ '0' := by
  induction n using Nat.strongRecOn generalizing digits with
  | ind n ih =>
    by_cases small : n < 10
    · rw [Nat.toDigits_of_lt_base small] at shape
      obtain ⟨rfl, -⟩ := List.cons_eq_cons.1 shape
      have table : ∀ n < 10, 0 < n → Nat.digitChar n ≠ '0' := by decide
      exact table n small positive
    · rw [Nat.toDigits_of_base_le (by decide) (Nat.le_of_not_lt small)] at shape
      cases leading : Nat.toDigits 10 (n / 10) with
      | nil => exact absurd leading Nat.toDigits_ne_nil
      | cons d others =>
        rw [leading] at shape
        obtain ⟨rfl, -⟩ := List.cons_eq_cons.1 shape
        exact ih (n / 10) (by omega) (by omega) leading

/-! ### Numbers -/

variable {limit : Nat}

theorem head_not_exponent {rest : List Char} (ends : Ends rest) :
    rest.head?.any (fun c => c == 'e' || c == 'E') = false := by
  cases rest with
  | nil => rfl
  | cons c rest =>
    have small := endsValue_ne (ends c rfl) (show endsValue 'e' = false by decide)
    have large := endsValue_ne (ends c rfl) (show endsValue 'E' = false by decide)
    simp only [List.head?_cons, Option.any_some, beq_false_of_ne small, beq_false_of_ne large,
      Bool.or_self]

theorem readNumberTail_ends (negative : Bool) (significand : Nat) {rest : List Char}
    (ends : Ends rest) (bound : rest.length < limit) :
    readNumberTail negative significand rest bound =
      .ok ⟨wholeNumeral negative significand, rest, bound⟩ := by
  have noDigits := skipDigits_ends ends
  unfold readNumberTail
  dsimp only
  split
  · next _ fraction _ same _ =>
    rw [noDigits] at same
    have point : '.' ∈ rest.head? := by rw [same, List.head?_cons]; rfl
    exact absurd rfl (endsValue_ne (ends '.' point) (by decide))
  · next short _ =>
    revert short
    rw [noDigits, Nat.sub_self, head_not_exponent ends]
    intro short _
    rfl

/-- The digits of a number are read as the number. -/
theorem readNumber_toDigits (negative : Bool) {n : Nat} (below : n < Word.unsignedBound)
    {rest : List Char} (ends : Ends rest)
    (bound : (Nat.toDigits 10 n ++ rest).length ≤ limit) :
    ∃ shorter, readNumber negative (Nat.toDigits 10 n ++ rest) bound =
      .ok ⟨wholeNumeral negative n, rest, shorter⟩ := by
  revert bound
  cases shape : Nat.toDigits 10 n with
  | nil => exact absurd shape Nat.toDigits_ne_nil
  | cons c digits =>
    intro bound
    have isDigits : ∀ d ∈ c :: digits, d.isDigit = true := fun d member =>
      isDigit_of_mem_toDigits (shape ▸ member)
    have value := digitsValue_toDigits n
    rw [shape, digitsValue, List.foldl_cons, Nat.mul_zero, Nat.zero_add] at value
    have short : rest.length < limit := by
      simp only [List.length_append, List.length_cons] at bound
      omega
    by_cases zero : n = 0
    · rw [zero, Nat.toDigits_zero] at shape
      cases shape
      refine ⟨short, ?_⟩
      have noDigit := startsWithDigit_ends ends
      simp only [readNumber, List.cons_append, List.nil_append, noDigit, if_true, zero,
        Bool.false_eq_true, if_false]
      exact readNumberTail_ends negative 0 ends short
    · have notZero : c ≠ '0' := head_toDigits (Nat.pos_of_ne_zero zero) shape
      have absorbed := absorb_digits (digitValue c)
        (fun d member => isDigits d (List.mem_cons_of_mem _ member)) ends (value.symm ▸ below)
      refine ⟨short, ?_⟩
      simp only [readNumber, List.cons_append, notZero, if_false, isDigits c List.mem_cons_self,
        if_true, absorbed, value]
      exact readNumberTail_ends negative n ends short

/-! ### Integers -/

theorem integerOf_natural {n : Nat} (below : n < Word.signedBound) (rest : List Char) :
    integerOf (wholeNumeral false n) rest = .ok (Int64.ofNat n) := by
  simp only [wholeNumeral, Bool.not_false, if_true, integerOf, below]

theorem integerOf_negative {n : Nat} (positive : 0 < n) (le : n ≤ Word.signedBound)
    (rest : List Char) : integerOf (wholeNumeral true n) rest = .ok (Int64.ofInt (-n)) := by
  simp only [wholeNumeral, Bool.not_true, Bool.false_eq_true, if_false,
    Nat.pos_iff_ne_zero.1 positive, le, ne_eq, not_false_eq_true, decide_true, Bool.and_self,
    if_true, integerOf]

theorem isSpace_of_isDigit {c : Char} (digit : c.isDigit = true) : isSpace c = false :=
  isSpace_of_endsValue (endsValue_of_isDigit digit)

theorem readInteger_minus {space : List Char} (blank : Blank space) (text : List Char) :
    ∃ bound, readInteger (space ++ '-' :: text) = (do
      let read ← readNumber true text bound
      let value ← integerOf read.value read.rest
      return ⟨value, read.rest, read.shorter⟩) := by
  have skipped := skipSpace_blank blank (by decide : isSpace '-' = false) text
  refine ⟨by simp only [List.length_append, List.length_cons]; omega, ?_⟩
  unfold readInteger
  split
  · next empty _ =>
    rw [skipped] at empty
    cases empty
  · next same _ =>
    rw [skipped] at same
    cases same
    rfl

theorem readInteger_digit {space : List Char} (blank : Blank space) {c : Char}
    (digit : c.isDigit = true) (text : List Char) :
    ∃ bound, readInteger (space ++ c :: text) = (do
      let read ← readNumber false (c :: text) bound
      let value ← integerOf read.value read.rest
      return ⟨value, read.rest, read.shorter⟩) := by
  have skipped := skipSpace_blank blank (isSpace_of_isDigit digit) text
  have notMinus : c ≠ '-' := by
    rintro rfl
    exact absurd digit (by decide)
  refine ⟨by rw [List.length_append]; omega, ?_⟩
  unfold readInteger
  split
  · next empty _ =>
    rw [skipped] at empty
    cases empty
  · next same _ =>
    rw [skipped] at same
    cases same
    simp only [digit, Bool.or_true, if_true, notMinus, if_false]

/-- The digits of a number, behind a minus sign or without one. -/
def signed : Bool → Nat → List Char
  | true, n => '-' :: Nat.toDigits 10 n
  | false, n => Nat.toDigits 10 n

/-- A number is read behind its sign and then taken for an integer. -/
theorem readInteger_signed {space : List Char} (blank : Blank space) (negative : Bool) (n : Nat)
    (rest : List Char) :
    ∃ bound, readInteger (space ++ (signed negative n ++ rest)) = (do
      let read ← readNumber negative (Nat.toDigits 10 n ++ rest) bound
      let value ← integerOf read.value read.rest
      return ⟨value, read.rest, read.shorter⟩) := by
  cases negative with
  | true => exact readInteger_minus blank _
  | false =>
    rw [signed]
    cases shape : Nat.toDigits 10 n with
    | nil => exact absurd shape Nat.toDigits_ne_nil
    | cons c digits =>
      exact readInteger_digit blank (isDigit_of_mem_toDigits (shape ▸ List.mem_cons_self)) _

theorem readInteger_takes {space : List Char} (blank : Blank space) (negative : Bool) {n : Nat}
    (below : n < Word.unsignedBound) {value : Int64} {rest : List Char} (ends : Ends rest)
    (whole : integerOf (wholeNumeral negative n) rest = .ok value) :
    Takes readInteger (space ++ (signed negative n ++ rest)) value rest := by
  obtain ⟨bound, read⟩ := readInteger_signed blank negative n rest
  obtain ⟨shorter, number⟩ := readNumber_toDigits negative below ends bound
  refine ⟨shorter, ?_⟩
  rw [read, number]
  simp only [bind, Except.bind, whole, pure, Except.pure]

theorem readInteger_natural {space : List Char} (blank : Blank space) {n : Nat}
    (below : n < Word.signedBound) {rest : List Char} (ends : Ends rest) :
    Takes readInteger (space ++ (Nat.toDigits 10 n ++ rest)) (Int64.ofNat n) rest :=
  readInteger_takes blank false (Nat.lt_trans below (by decide)) ends
    (integerOf_natural below rest)

theorem readInteger_negative {space : List Char} (blank : Blank space) {n : Nat}
    (positive : 0 < n) (le : n ≤ Word.signedBound) {rest : List Char} (ends : Ends rest) :
    Takes readInteger (space ++ '-' :: (Nat.toDigits 10 n ++ rest)) (Int64.ofInt (-n)) rest :=
  readInteger_takes blank true (Nat.lt_of_le_of_lt le (by decide)) ends
    (integerOf_negative positive le rest)

/-- An integer is read back from the way it is written. -/
theorem readInteger_toString {space : List Char} (blank : Blank space) (tag : Int64)
    {rest : List Char} (ends : Ends rest) :
    Takes readInteger (space ++ ((toString tag.toInt).toList ++ rest)) tag rest := by
  have least := tag.le_toInt
  have greatest := tag.toInt_lt
  rw [toString_int_toList]
  by_cases nonnegative : 0 ≤ tag.toInt
  · have below : tag.toInt.natAbs < Word.signedBound := by
      unfold Word.signedBound
      omega
    have value : Int64.ofNat tag.toInt.natAbs = tag := by
      rw [← Int64.ofInt_eq_ofNat, show (tag.toInt.natAbs : Int) = tag.toInt by omega,
        Int64.ofInt_toInt]
    rw [if_pos nonnegative]
    have taken := readInteger_natural blank below ends
    rwa [value] at taken
  · have le : tag.toInt.natAbs ≤ Word.signedBound := by
      unfold Word.signedBound
      omega
    have value : Int64.ofInt (-(tag.toInt.natAbs : Int)) = tag := by
      rw [show -(tag.toInt.natAbs : Int) = tag.toInt by omega, Int64.ofInt_toInt]
    rw [if_neg nonnegative]
    have taken := readInteger_negative blank (by omega) le ends
    rwa [value] at taken

end ReqlLua.Json
