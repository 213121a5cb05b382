import ReqlLua.Text.Decimal

/-! Whole numbers and their decimal digits. -/

namespace ReqlLua.Text

/-- The number written by digits, with a minus sign before them or not. -/
def signedValue : List Char → Int
  | '-' :: digits => -(digitsValue digits : Int)
  | digits => digitsValue digits

theorem digitsValue_toDigits (n : Nat) : digitsValue (Nat.toDigits 10 n) = n :=
  Nat.ofDigitChars_ten_toDigits

theorem isDigit_of_mem_toDigits {n : Nat} {c : Char} (member : c ∈ Nat.toDigits 10 n) :
    c.isDigit = true :=
  Nat.isDigit_of_mem_toDigits (by decide) (by decide) member

theorem toString_nat_toList (n : Nat) : (toString n).toList = Nat.toDigits 10 n := by
  rw [Nat.toString_eq_repr, Nat.toList_repr]

/-- A number is written with a minus sign exactly if it is negative. -/
theorem toString_int_toList (n : Int) :
    (toString n).toList =
      if 0 ≤ n then Nat.toDigits 10 n.natAbs else '-' :: Nat.toDigits 10 n.natAbs := by
  rw [Int.toString_eq_repr, Int.repr_eq_if]
  split
  · next nonnegative =>
    rw [Nat.toList_repr, show n.toNat = n.natAbs by omega]
  · next negative =>
    rw [String.toList_append, Nat.toList_repr, show (-n).toNat = n.natAbs by omega]
    rfl

theorem toDigits_ne_minus (n : Nat) (digits : List Char) : Nat.toDigits 10 n ≠ '-' :: digits := by
  intro same
  have digit := isDigit_of_mem_toDigits (same ▸ List.mem_cons_self)
  exact absurd digit (by decide)

theorem signedValue_toString (n : Int) : signedValue (toString n).toList = n := by
  rw [toString_int_toList]
  split
  · have plain : signedValue (Nat.toDigits 10 n.natAbs) =
        (digitsValue (Nat.toDigits 10 n.natAbs) : Int) := by
      unfold signedValue
      split
      · next digits same => exact absurd same (toDigits_ne_minus _ _)
      · rfl
    rw [plain, digitsValue_toDigits]
    omega
  · rw [signedValue, digitsValue_toDigits]
    omega

/-- Numbers are written without any character but digits and the minus sign. -/
theorem not_mem_toString {n : Int} {c : Char} (notDigit : c.isDigit = false) (notMinus : c ≠ '-') :
    c ∉ (toString n).toList := by
  intro member
  rw [toString_int_toList] at member
  have digits : c ∉ Nat.toDigits 10 n.natAbs := fun among => by
    rw [isDigit_of_mem_toDigits among] at notDigit
    exact Bool.noConfusion notDigit
  split at member
  · exact digits member
  · rcases List.mem_cons.1 member with same | among
    · exact notMinus same
    · exact digits among

end ReqlLua.Text
