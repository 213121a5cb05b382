import ReqlLua.Text.Bytes

/-! The bytes of texts. A byte below 0x80 is a character of its own wherever it stands, so bytes that
spell ASCII text are found in an encoded text only where the text itself has these characters. -/

namespace ReqlLua.Text

def encode (text : List Char) : List UInt8 := text.flatMap String.utf8EncodeChar

@[simp] theorem encode_nil : encode [] = [] := rfl

@[simp] theorem encode_cons (c : Char) (text : List Char) :
    encode (c :: text) = String.utf8EncodeChar c ++ encode text := rfl

@[simp] theorem encode_append (first second : List Char) :
    encode (first ++ second) = encode first ++ encode second :=
  List.flatMap_append

@[simp] theorem length_encode (text : List Char) : (encode text).length = byteLength text := by
  induction text with
  | nil => rfl
  | cons c text ih => rw [encode_cons, List.length_append, String.length_utf8EncodeChar, ih]; rfl

def bytes (text : String) : List UInt8 := text.toUTF8.data.toList

theorem bytes_eq_encode (text : String) : bytes text = encode text.toList := by
  show text.toByteArray.data.toList = _
  rw [← String.utf8Encode_toList, List.utf8Encode, List.toList_data_toByteArray]
  rfl

theorem utf8ByteSize_eq_byteLength (text : String) :
    text.utf8ByteSize = byteLength text.toList := by
  rw [← length_encode, ← bytes_eq_encode]
  rfl

def IsAscii (c : Char) : Prop := c.toNat < 0x80

instance : DecidablePred IsAscii := fun c => inferInstanceAs (Decidable (c.toNat < 0x80))

theorem utf8_of_ascii {c : Char} (ascii : IsAscii c) :
    String.utf8EncodeChar c = [UInt8.ofNat c.toNat] := by
  have small : c.val.toNat ≤ 0x7f := Nat.le_of_lt_succ ascii
  simp only [String.utf8EncodeChar, if_pos small]
  rfl

theorem utf8_of_not_ascii {c : Char} (high : ¬IsAscii c) :
    ∀ byte ∈ String.utf8EncodeChar c, 0x80 ≤ byte.toNat := by
  have large : ¬c.val.toNat ≤ 0x7f := fun small => high (Nat.lt_succ_of_le small)
  intro byte member
  simp only [String.utf8EncodeChar, if_neg large] at member
  split at member
  · simp only [List.mem_cons, List.not_mem_nil, or_false] at member
    rcases member with rfl | rfl <;> rw [UInt8.toNat_ofNat'] <;> omega
  · split at member <;> simp only [List.mem_cons, List.not_mem_nil, or_false] at member
    · rcases member with rfl | rfl | rfl <;> rw [UInt8.toNat_ofNat'] <;> omega
    · rcases member with rfl | rfl | rfl | rfl <;> rw [UInt8.toNat_ofNat'] <;> omega

theorem encode_eq_nil {text : List Char} (empty : encode text = []) : text = [] := by
  cases text with
  | nil => rfl
  | cons c text => exact absurd (List.append_eq_nil_iff.1 empty).1 String.utf8EncodeChar_ne_nil

theorem utf8_ascii_injective {c d : Char} (first : IsAscii c) (second : IsAscii d)
    (same : UInt8.ofNat c.toNat = UInt8.ofNat d.toNat) : c = d := by
  have codes := congrArg UInt8.toNat same
  rw [UInt8.toNat_ofNat', UInt8.toNat_ofNat'] at codes
  unfold IsAscii at first second
  exact Char.toNat_inj.1 (by omega)

/-- Where an encoded text has the byte of an ASCII character, the text has the character. -/
theorem encode_split_char {c : Char} (ascii : IsAscii c) {text : List Char}
    (before : List UInt8) {behind : List UInt8}
    (split : encode text = before ++ UInt8.ofNat c.toNat :: behind) :
    ∃ first last, text = first ++ c :: last ∧ encode first = before ∧ encode last = behind := by
  induction text generalizing before with
  | nil => exact absurd split (by simp)
  | cons d text ih =>
    rw [encode_cons] at split
    by_cases low : IsAscii d
    · rw [utf8_of_ascii low] at split
      cases before with
      | nil =>
        obtain ⟨same, rest⟩ := List.cons_eq_cons.1 split
        obtain rfl := utf8_ascii_injective low ascii same
        exact ⟨[], text, rfl, rfl, rest⟩
      | cons byte before =>
        obtain ⟨rfl, rest⟩ := List.cons_eq_cons.1 split
        obtain ⟨first, last, rfl, rfl, rfl⟩ := ih _ rest
        exact ⟨d :: first, last, rfl, by rw [encode_cons, utf8_of_ascii low]; rfl, rfl⟩
    · -- The byte is too small to be one of the bytes of a character beyond ASCII.
      rcases List.append_eq_append_iff.1 split with ⟨between, rfl, rest⟩ | ⟨between, inside, rest⟩
      · obtain ⟨first, last, rfl, rfl, rfl⟩ := ih _ rest
        exact ⟨d :: first, last, rfl, rfl, rfl⟩
      · cases between with
        | nil =>
          obtain ⟨first, last, rfl, empty, rfl⟩ := ih [] rest.symm
          rw [List.append_nil] at inside
          exact ⟨d :: first, last, rfl, by rw [encode_cons, empty, inside, List.append_nil], rfl⟩
        | cons byte between =>
          obtain ⟨rfl, -⟩ := List.cons_eq_cons.1 rest
          have bound := utf8_of_not_ascii low _ (inside ▸ List.mem_append_right _ List.mem_cons_self)
          rw [UInt8.toNat_ofNat'] at bound
          unfold IsAscii at ascii
          omega

theorem encode_split_front {pattern text : List Char} {behind : List UInt8}
    (ascii : ∀ c ∈ pattern, IsAscii c) (split : encode text = encode pattern ++ behind) :
    ∃ last, text = pattern ++ last ∧ encode last = behind := by
  induction pattern generalizing text with
  | nil => exact ⟨text, rfl, split⟩
  | cons c pattern ih =>
    have low := ascii c List.mem_cons_self
    rw [encode_cons, utf8_of_ascii low] at split
    obtain ⟨first, last, rfl, empty, rest⟩ := encode_split_char low [] split
    obtain rfl := encode_eq_nil empty
    obtain ⟨last, rfl, rfl⟩ := ih (fun d member => ascii d (List.mem_cons_of_mem _ member)) rest
    exact ⟨last, rfl, rfl⟩

/-- Where an encoded text has the bytes of an ASCII text, the text has the ASCII text itself. -/
theorem encode_split {pattern text : List Char} {before behind : List UInt8}
    (ascii : ∀ c ∈ pattern, IsAscii c) (nonempty : pattern ≠ [])
    (split : encode text = before ++ (encode pattern ++ behind)) :
    ∃ first last, text = first ++ (pattern ++ last) ∧ encode first = before ∧
      encode last = behind := by
  cases pattern with
  | nil => exact absurd rfl nonempty
  | cons c pattern =>
    have low := ascii c List.mem_cons_self
    rw [encode_cons, utf8_of_ascii low] at split
    obtain ⟨first, last, rfl, rfl, rest⟩ := encode_split_char low _ split
    obtain ⟨last, rfl, rfl⟩ :=
      encode_split_front (fun d member => ascii d (List.mem_cons_of_mem _ member)) rest
    exact ⟨first, last, rfl, rfl, rfl⟩

end ReqlLua.Text
