import ReqlLua.Text.Lowercase

/-! Lower case of ASCII, where the place of a letter does not count. -/

namespace ReqlLua.Text

theorem lowerAfter_ascii (before : List Char) {text : List Char}
    (ascii : ∀ c ∈ text, c.toNat < 0x80) : lowerAfter before text = text.map Char.toLower := by
  induction text generalizing before with
  | nil => rfl
  | cons c rest ih =>
    have small : c.toNat < 0x80 := ascii c List.mem_cons_self
    have notSigma : (c.toNat = 0x3A3 && meetsCased before && !meetsCased rest) = false := by
      rw [decide_eq_false (by omega), Bool.false_and, Bool.false_and]
    rw [lowerAfter, notSigma, lowerChar, if_pos small,
      ih _ fun d member => ascii d (List.mem_cons_of_mem _ member)]
    rfl

theorem lowercase_ascii {text : String} (ascii : ∀ c ∈ text.toList, c.toNat < 0x80) :
    (lowercase text).toList = text.toList.map Char.toLower := by
  rw [lowercase, String.toList_ofList, lowerAfter_ascii [] ascii]

theorem ascii_of_isUpper {c : Char} (upper : c.isUpper = true) : c.toNat < 0x80 := by
  have bound : c.val ≤ 'Z'.val := (of_decide_eq_true upper).2
  exact Nat.lt_of_le_of_lt (UInt32.le_iff_toNat_le.1 bound) (by decide)

theorem ascii_of_isLower {c : Char} (lower : c.isLower = true) : c.toNat < 0x80 := by
  have bounds : (c.val ≥ 'a'.val && c.val ≤ 'z'.val) = true := lower
  rw [Bool.and_eq_true] at bounds
  have bound : c.val ≤ 'z'.val := of_decide_eq_true bounds.2
  exact Nat.lt_of_le_of_lt (UInt32.le_iff_toNat_le.1 bound) (by decide)

theorem ascii_of_isDigit {c : Char} (digit : c.isDigit = true) : c.toNat < 0x80 := by
  have bounds : (c.val ≥ '0'.val && c.val ≤ '9'.val) = true := digit
  rw [Bool.and_eq_true] at bounds
  have bound : c.val ≤ '9'.val := of_decide_eq_true bounds.2
  exact Nat.lt_of_le_of_lt (UInt32.le_iff_toNat_le.1 bound) (by decide)

/-- What holds of all codes of ASCII holds of all its characters. -/
theorem forall_ascii {P : Char → Prop} (table : ∀ code < 0x80, P (Char.ofNat code)) {c : Char}
    (ascii : c.toNat < 0x80) : P c := by
  have entry := table c.toNat ascii
  rwa [Char.ofNat_toNat] at entry

theorem isLower_toLower {c : Char} (upper : c.isUpper = true) : c.toLower.isLower = true :=
  forall_ascii (P := fun c => c.isUpper = true → c.toLower.isLower = true) (by decide)
    (ascii_of_isUpper upper) upper

theorem toLower_of_isDigit {c : Char} (digit : c.isDigit = true) : c.toLower = c :=
  forall_ascii (P := fun c => c.isDigit = true → c.toLower = c) (by decide)
    (ascii_of_isDigit digit) digit

end ReqlLua.Text
