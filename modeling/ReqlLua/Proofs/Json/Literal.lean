import ReqlLua.Proofs.Json.Refusal
import ReqlLua.Proofs.Text.Lowercase

/-! Whole numbers of any size as they are written in a document. Those of a signed 64-bit word are read,
all others refused: numbers beyond 64 bits and minus zero are none of the whole numbers that a reader
makes. -/

namespace ReqlLua.Json

open Text

/-! ### Literals -/

/-- A whole number without a fraction or an exponent. Zero has two of them. -/
structure Literal where
  negative : Bool
  magnitude : Nat
deriving DecidableEq

namespace Literal

def text (literal : Literal) : List Char := signed literal.negative literal.magnitude

def value (literal : Literal) : Int :=
  if literal.negative then -literal.magnitude else literal.magnitude

/-- The literal stands for a number of a signed word. Minus zero is no whole number. -/
def Fits (literal : Literal) : Prop :=
  literal ≠ ⟨true, 0⟩ ∧ -(Word.signedBound : Int) ≤ literal.value ∧
    literal.value < Word.signedBound

instance (literal : Literal) : Decidable literal.Fits := inferInstanceAs (Decidable (_ ∧ _ ∧ _))

/-- The word of a literal that fits. -/
def word (literal : Literal) : Int64 := Int64.ofInt literal.value

theorem toInt_word {literal : Literal} (fits : literal.Fits) :
    literal.word.toInt = literal.value := by
  obtain ⟨-, least, greatest⟩ := fits
  unfold Word.signedBound at least greatest
  exact Int64.toInt_ofInt_of_le least greatest

theorem text_of_fits {literal : Literal} (fits : literal.Fits) :
    literal.text = (toString literal.word.toInt).toList := by
  rw [toInt_word fits, toString_int_toList, text, value]
  cases sign : literal.negative with
  | true =>
    have notZero : literal.magnitude ≠ 0 := by
      intro zero
      apply fits.1
      rw [← sign, ← zero]
    have negative : ¬0 ≤ -(literal.magnitude : Int) := by omega
    rw [if_pos rfl, if_neg negative, Int.natAbs_neg, Int.natAbs_natCast]
    rfl
  | false =>
    have nonnegative : 0 ≤ (literal.magnitude : Int) := by omega
    rw [if_neg Bool.false_ne_true, if_pos nonnegative, Int.natAbs_natCast]
    rfl

end Literal

def LiteralText (literal : Literal) (text : List Char) : Prop :=
  ∃ space, Blank space ∧ text = space ++ literal.text

/-! ### Numbers beyond 64 bits -/

theorem digitValue_lt_ten {c : Char} (digit : c.isDigit = true) : digitValue c < 10 :=
  forall_ascii (P := fun c => c.isDigit = true → digitValue c < 10) (by decide) (ascii_of_isDigit digit) digit

/-- Some digits of a number beyond the limit are left. -/
theorem absorb_beyond {limit value : Nat} {digits : List Char} (rest : List Char)
    (below : value < limit)
    (beyond : limit ≤ digits.foldl (fun value c => 10 * value + digitValue c) value) :
    ∃ taken left, absorb limit value (digits ++ rest) = (taken, left ++ rest) ∧ left ≠ [] ∧
      left ⊆ digits := by
  induction digits generalizing value with
  | nil => exact absurd beyond (Nat.not_le.2 below)
  | cons c digits ih =>
    rw [List.cons_append, absorb]
    by_cases grows : (c.isDigit && decide (10 * value + digitValue c < limit)) = true
    · have below' := of_decide_eq_true (Bool.and_eq_true_iff.1 grows).2
      obtain ⟨taken, left, same, nonempty, among⟩ := ih below' beyond
      refine ⟨taken, left, ?_, nonempty, List.subset_cons_of_subset c among⟩
      rw [← same]
      exact if_pos grows
    · exact ⟨value, c :: digits, if_neg grows, List.cons_ne_nil _ _, fun _ member => member⟩

variable {limit : Nat}

theorem readScale_ends (negative : Bool) (significand : Nat) (exponent : Int) {rest : List Char}
    (ends : Ends rest) (bound : rest.length < limit) :
    readScale negative significand exponent rest bound =
      finishReal negative significand exponent rest bound := by
  cases rest with
  | nil => rfl
  | cons c rest =>
    have small := endsValue_ne (ends c rfl) (show endsValue 'e' = false by decide)
    have large := endsValue_ne (ends c rfl) (show endsValue 'E' = false by decide)
    simp only [readScale, small, large, decide_false, Bool.or_self, Bool.false_eq_true, if_false]

/-- What ends in digits that do not count is no whole number. -/
theorem readNumberTail_digits (negative : Bool) (significand : Nat) {digits rest : List Char}
    (nonempty : digits ≠ []) (isDigits : ∀ c ∈ digits, c.isDigit = true) (ends : Ends rest)
    (bound : (digits ++ rest).length < limit) :
    ∃ short, readNumberTail negative significand (digits ++ rest) bound =
      finishReal negative significand digits.length rest short := by
  have skipped := skipDigits_append isDigits (startsWithDigit_ends ends)
  have positive : 0 < digits.length := List.length_pos_iff.2 nonempty
  refine ⟨by rw [List.length_append] at bound; omega, ?_⟩
  unfold readNumberTail
  dsimp only
  split
  · next same _ =>
    rw [skipped] at same
    have point : '.' ∈ rest.head? := by rw [same, List.head?_cons]; rfl
    exact absurd rfl (endsValue_ne (ends '.' point) (by decide))
  · next short _ =>
    have behind : (digits ++ rest).length - rest.length = digits.length := by
      rw [List.length_append, Nat.add_sub_cancel]
    have isSome : ((digits.length : Int) = 0) = False := eq_false (by omega)
    -- The bound speaks of the text that is left, so it is rewritten along with it.
    revert short
    rw [skipped, behind]
    intro short _
    simp only [isSome, decide_false, Bool.false_and, Bool.false_eq_true, if_false]
    exact readScale_ends negative significand _ ends short

theorem finishReal_real {negative : Bool} {significand : Nat} {exponent : Int} {text : List Char}
    {bound : text.length < limit} {read : Read limit Numeral}
    (finished : finishReal negative significand exponent text bound = .ok read) :
    ∃ value, read.value = .real value := by
  unfold finishReal at finished
  split at finished
  · cases finished
    exact ⟨_, rfl⟩
  · cases finished

/-- The digits of a number beyond 64 bits are read as those of a number with a fraction. -/
theorem readNumber_beyond {negative : Bool} {n : Nat} (beyond : Word.unsignedBound ≤ n)
    {rest : List Char} (ends : Ends rest) {bound : (Nat.toDigits 10 n ++ rest).length ≤ limit}
    {read : Read limit Numeral}
    (taken : readNumber negative (Nat.toDigits 10 n ++ rest) bound = .ok read) :
    ∃ value, read.value = .real value := by
  revert bound
  cases shape : Nat.toDigits 10 n with
  | nil => exact absurd shape Nat.toDigits_ne_nil
  | cons c digits =>
    intro bound taken
    have isDigits : ∀ d ∈ c :: digits, d.isDigit = true := fun d member =>
      isDigit_of_mem_toDigits (shape ▸ member)
    have value := digitsValue_toDigits n
    rw [shape, digitsValue, List.foldl_cons, Nat.mul_zero, Nat.zero_add] at value
    have positive : 0 < n := Nat.lt_of_lt_of_le (by decide) beyond
    have notZero : c ≠ '0' := head_toDigits positive shape
    have small : digitValue c < Word.unsignedBound :=
      Nat.lt_trans (digitValue_lt_ten (isDigits c List.mem_cons_self)) (by decide)
    obtain ⟨significand, left, absorbed, nonempty, among⟩ :=
      absorb_beyond rest small (value.symm ▸ beyond)
    simp only [readNumber, List.cons_append, notZero, if_false, isDigits c List.mem_cons_self,
      if_true, absorbed] at taken
    have leftDigits : ∀ d ∈ left, d.isDigit = true := fun d member =>
      isDigits d (List.mem_cons_of_mem _ (among member))
    have less := absorb_length_le Word.unsignedBound (digitValue c) (digits ++ rest)
    rw [absorbed] at less
    obtain ⟨short, tail⟩ := readNumberTail_digits negative significand nonempty leftDigits ends
      (Nat.lt_of_le_of_lt less bound)
    exact finishReal_real (tail.symm.trans taken)

/-! ### Reading literals -/

theorem fits_natural {n : Nat} (below : n < Word.signedBound) : Literal.Fits ⟨false, n⟩ := by
  have value : Literal.value ⟨false, n⟩ = n := rfl
  refine ⟨fun same => Bool.false_ne_true (congrArg Literal.negative same), ?_, ?_⟩
  · omega
  · omega

theorem fits_negative {n : Nat} (positive : n ≠ 0) (le : n ≤ Word.signedBound) :
    Literal.Fits ⟨true, n⟩ := by
  have value : Literal.value ⟨true, n⟩ = -n := rfl
  refine ⟨fun same => positive (congrArg Literal.magnitude same), ?_, ?_⟩
  · omega
  · omega

theorem integerOf_unfit {literal : Literal} (unfit : ¬literal.Fits) (rest : List Char) :
    ∃ fault, integerOf (wholeNumeral literal.negative literal.magnitude) rest = .error fault := by
  obtain ⟨negative, n⟩ := literal
  cases negative with
  | false =>
    have large : ¬n < Word.signedBound := fun below => unfit (fits_natural below)
    refine ⟨.here (.integerTooLarge n) rest, ?_⟩
    simp only [wholeNumeral, Bool.not_false, if_true, integerOf, large, if_false]
  | true =>
    have real : (n ≠ 0 && n ≤ Word.signedBound) = false := by
      apply eq_false_of_ne_true
      intro whole
      obtain ⟨positive, le⟩ := Bool.and_eq_true_iff.1 whole
      exact unfit (fits_negative (of_decide_eq_true positive) (of_decide_eq_true le))
    simp only [wholeNumeral, Bool.not_true, Bool.false_eq_true, if_false, real, integerOf]
    exact ⟨_, rfl⟩

theorem readInteger_refuses {literal : Literal} (unfit : ¬literal.Fits) {text : List Char}
    (written : LiteralText literal text) {rest : List Char} (ends : Ends rest) :
    Fails readInteger (text ++ rest) := by
  obtain ⟨space, blank, rfl⟩ := written
  rw [List.append_assoc]
  obtain ⟨bound, read⟩ :=
    readInteger_signed blank literal.negative literal.magnitude rest
  by_cases below : literal.magnitude < Word.unsignedBound
  · obtain ⟨shorter, number⟩ := readNumber_toDigits literal.negative below ends bound
    obtain ⟨fault, refused⟩ := integerOf_unfit unfit rest
    refine ⟨fault, read.trans ?_⟩
    rw [number]
    simp only [bind, Except.bind, refused]
    rfl
  · cases number : readNumber literal.negative (Nat.toDigits 10 literal.magnitude ++ rest) bound with
    | error fault =>
      refine ⟨fault, read.trans ?_⟩
      rw [number]
      rfl
    | ok taken =>
      obtain ⟨value, real⟩ := readNumber_beyond (Nat.le_of_not_lt below) ends number
      refine ⟨.here (.wrongKind (.number value) .integer) taken.rest, read.trans ?_⟩
      rw [number]
      simp only [bind, Except.bind, real, integerOf]
      rfl

end ReqlLua.Json
