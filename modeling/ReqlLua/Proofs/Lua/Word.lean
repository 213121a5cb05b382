import ReqlLua.Lua.Blocks
import ReqlLua.Proofs.Text.Lowercase
import ReqlLua.Proofs.Text.Numerals

/-! Words: texts of ASCII letters, digits and underscores. Quoting leaves them as they are, and none of
the signs around names in a block occurs in them. -/

namespace ReqlLua.Lua

def isWordChar (c : Char) : Bool := c.isAlphanum || c == '_'

def IsWord (text : String) : Prop := ∀ c ∈ text.toList, isWordChar c = true

instance : DecidablePred IsWord := fun text =>
  decidable_of_iff (text.toList.all isWordChar = true) List.all_eq_true

theorem IsWord.not_mem {text : String} (word : IsWord text) {c : Char}
    (sign : isWordChar c = false) : c ∉ text.toList := by
  intro member
  rw [word c member] at sign
  exact Bool.noConfusion sign

theorem isWordChar_iff {c : Char} : isWordChar c = true ↔
    c.isUpper = true ∨ c.isLower = true ∨ c.isDigit = true ∨ c = '_' := by
  change (((c.isUpper || c.isLower) || c.isDigit) || c == '_') = true ↔ _
  rw [Bool.or_eq_true, Bool.or_eq_true, Bool.or_eq_true, beq_iff_eq, or_assoc, or_assoc]

theorem isWordChar_ascii {c : Char} (word : isWordChar c = true) : c.toNat < 0x80 := by
  rcases isWordChar_iff.1 word with upper | lower | digit | rfl
  · exact Text.ascii_of_isUpper upper
  · exact Text.ascii_of_isLower lower
  · exact Text.ascii_of_isDigit digit
  · decide

theorem not_isDigit_of_not_isWordChar {c : Char} (notWord : isWordChar c = false) :
    c.isDigit = false := by
  cases digit : c.isDigit with
  | false => rfl
  | true =>
    rw [isWordChar_iff.2 (.inr (.inr (.inl digit)))] at notWord
    exact Bool.noConfusion notWord

theorem isWord_cons {name : String} {first : Char} {rest : List Char}
    (shape : name.toList = first :: rest) (one : isWordChar first = true)
    (others : ∀ c ∈ rest, isWordChar c = true) : IsWord name := by
  intro c member
  rw [shape] at member
  rcases List.mem_cons.1 member with rfl | member
  · exact one
  · exact others c member

theorem flatMap_escape_word {text : List Char} (word : ∀ c ∈ text, isWordChar c = true) :
    text.flatMap escape = text := by
  induction text with
  | nil => rfl
  | cons c text ih =>
    have first := word c List.mem_cons_self
    have plain : escape c = [c] := by
      have backslash : c ≠ '\\' := fun same => absurd (same ▸ first) (by decide)
      have quote : c ≠ '\'' := fun same => absurd (same ▸ first) (by decide)
      have lineFeed : c ≠ '\n' := fun same => absurd (same ▸ first) (by decide)
      rw [escape, if_neg backslash, if_neg quote, if_neg lineFeed]
    rw [List.flatMap_cons, plain, ih fun d member => word d (List.mem_cons_of_mem _ member)]
    rfl

theorem quoted_word {text : String} (word : IsWord text) :
    (quoted text).toList = '\'' :: (text.toList ++ ['\'']) := by
  rw [quoted, String.toList_ofList, flatMap_escape_word word]
  rfl

theorem not_mem_quoted {text : String} (word : IsWord text) {c : Char}
    (sign : isWordChar c = false) (notQuote : c ≠ '\'') : c ∉ (quoted text).toList := by
  rw [quoted_word word, List.mem_cons, List.mem_append, List.mem_singleton]
  rintro (quote | member | quote)
  · exact notQuote quote
  · exact word.not_mem sign member
  · exact notQuote quote

/-- Quoting leaves no end of a line in a text. -/
theorem quoted_oneLine (text : String) : '\n' ∉ (quoted text).toList := by
  have escaped (c : Char) : '\n' ∉ escape c := by
    unfold escape
    split
    · decide
    split
    · decide
    split
    · decide
    · next other => exact fun member => other (List.mem_singleton.1 member).symm
  rw [quoted, String.toList_ofList]
  simp [escaped]

/-! ### Characters of blocks -/

/-- Blocks consist of word characters and these signs, and otherwise of line feeds and of what is quoted. -/
def isBlockChar (c : Char) : Bool := isWordChar c || " =()\x7b\x7d,.'-".toList.contains c

theorem not_mem_of_isBlockChar {part : List Char} (signs : part.all isBlockChar = true) {c : Char}
    (other : isBlockChar c = false) : c ∉ part := by
  intro member
  rw [List.all_eq_true.1 signs c member] at other
  exact Bool.noConfusion other

theorem not_isWordChar_of_not_isBlockChar {c : Char} (other : isBlockChar c = false) :
    isWordChar c = false :=
  (Bool.or_eq_false_iff.1 other).1

/-! ### Arguments -/

theorem length_arguments (count : Nat) : (arguments count).length = count := by
  rw [arguments, List.length_map, List.length_range]

end ReqlLua.Lua
