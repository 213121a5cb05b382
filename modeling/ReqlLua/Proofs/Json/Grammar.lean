import ReqlLua.Proofs.Json.Members

/-! The grammar of JSON: which texts are values, whatever they stand for. A string need not spell characters,
a number may be of any size, and values may be nested to any depth. -/

namespace ReqlLua.Json

/-! ### Strings and numbers -/

/-- What may stand between the quotes of a string. -/
inductive StringText : List Char → Prop where
  | nil : StringText []
  | plain {c : Char} {text : List Char} (notQuote : c ≠ '"') (notEscape : c ≠ '\\')
      (printable : 0x20 ≤ c.toNat) (others : StringText text) : StringText (c :: text)
  | short {letter : Char} {text : List Char} (known : (shortEscape? letter).isSome = true)
      (others : StringText text) : StringText ('\\' :: letter :: text)
  | unit {first second third fourth : Char} {unit : Nat} {text : List Char}
      (digits : hexUnit? first second third fourth = some unit) (others : StringText text) :
      StringText ('\\' :: 'u' :: first :: second :: third :: fourth :: text)

/-- One digit or more. -/
structure IsDigits (text : List Char) : Prop where
  nonempty : text ≠ []
  digits : ∀ c ∈ text, c.isDigit = true

theorem IsDigits.of_all {text : List Char} (nonempty : text ≠ [])
    (all : text.all Char.isDigit = true) : IsDigits text :=
  ⟨nonempty, List.all_eq_true.1 all⟩

/-- The whole part of a number, which has no needless zero in front. -/
inductive WholeText : List Char → Prop where
  | digits {c : Char} {text : List Char} (isDigits : IsDigits (c :: text))
      (leading : c = '0' → text = []) : WholeText (c :: text)

inductive FractionText : List Char → Prop where
  | none : FractionText []
  | some {digits : List Char} (isDigits : IsDigits digits) : FractionText ('.' :: digits)

inductive PowerText : List Char → Prop where
  | none : PowerText []
  | some {letter : Char} {sign digits : List Char} (letters : letter = 'e' ∨ letter = 'E')
      (signs : sign = [] ∨ sign = ['+'] ∨ sign = ['-']) (isDigits : IsDigits digits) :
      PowerText (letter :: (sign ++ digits))

inductive NumberText : List Char → Prop where
  | parts {sign whole fraction power : List Char} (signs : sign = [] ∨ sign = ['-'])
      (isWhole : WholeText whole) (isFraction : FractionText fraction) (isPower : PowerText power) :
      NumberText (sign ++ (whole ++ (fraction ++ power)))

theorem NumberText.starts {text : List Char} (number : NumberText text) :
    ∃ c others, text = c :: others ∧ (c = '-' ∨ c.isDigit = true) := by
  cases number with
  | parts signs isWhole =>
    cases isWhole with
    | digits isDigits =>
      rcases signs with rfl | rfl
      · exact ⟨_, _, rfl, .inr (isDigits.digits _ List.mem_cons_self)⟩
      · exact ⟨'-', _, rfl, .inl rfl⟩

/-! ### Values -/

/-- A value, or what stands inside a list or an object, from its first item on or from behind an item. -/
inductive Part where
  | value
  | inside (frame : Frame) (isFirst : Bool)

def Frame.opener : Frame → Char
  | .list => '['
  | .object => '{'

/-- What stands before the value of an item: a key and its colon inside an object. -/
inductive Front : Frame → List Char → Prop where
  | list : Front .list []
  | object {key gap space : List Char} (string : StringText key) (blank : Blank gap)
      (blank' : Blank space) : Front .object ('"' :: (key ++ '"' :: (gap ++ ':' :: space)))

/-- The words by their first letters. -/
inductive WordText : Char → List Char → Prop where
  | null : WordText 'n' "ull".toList
  | true : WordText 't' "rue".toList
  | false : WordText 'f' "alse".toList

/-- The grammar of JSON. -/
inductive Grammar : Part → List Char → Prop where
  | word {c : Char} {letters : List Char} (word : WordText c letters) : Grammar .value (c :: letters)
  | string {text : List Char} (string : StringText text) :
      Grammar .value ('"' :: (text ++ ['"']))
  | number {text : List Char} (number : NumberText text) : Grammar .value text
  | nested {frame : Frame} {text : List Char} (inside : Grammar (.inside frame true) text) :
      Grammar .value (frame.opener :: (text ++ [frame.closer]))
  | done {frame : Frame} {isFirst : Bool} {space : List Char} (blank : Blank space) :
      Grammar (.inside frame isFirst) space
  | item {frame : Frame} {isFirst : Bool} {lead front text others : List Char}
      (leads : Lead isFirst lead) (fronts : Front frame front) (first : Grammar .value text)
      (later : Grammar (.inside frame false) others) :
      Grammar (.inside frame isFirst) (lead ++ (front ++ (text ++ others)))

/-- No value starts with what may stand behind one. -/
theorem Grammar.starts {text : List Char} (grammar : Grammar .value text) :
    ∃ c others, text = c :: others ∧ endsValue c = false := by
  cases grammar with
  | word word =>
    refine ⟨_, _, rfl, ?_⟩
    cases word <;> rfl
  | string => exact ⟨'"', _, rfl, rfl⟩
  | number number =>
    obtain ⟨c, others, rfl, rfl | digit⟩ := number.starts
    · exact ⟨'-', _, rfl, rfl⟩
    · exact ⟨c, _, rfl, endsValue_of_isDigit digit⟩
  | @nested frame =>
    refine ⟨_, _, rfl, ?_⟩
    cases frame <;> rfl

theorem Front.starts {frame : Frame} {front : List Char} (fronts : Front frame front)
    {text : List Char} (grammar : Grammar .value text) (rest : List Char) :
    ∃ c others, front ++ (text ++ rest) = c :: others ∧ endsValue c = false := by
  cases fronts with
  | list =>
    obtain ⟨c, others, rfl, goesOn⟩ := grammar.starts
    exact ⟨c, _, rfl, goesOn⟩
  | object => exact ⟨'"', _, rfl, rfl⟩

/-- What stands behind an item ends its value. -/
theorem Grammar.ends {frame : Frame} {text : List Char} (grammar : Grammar (.inside frame false) text)
    (rest : List Char) : Ends (text ++ frame.closer :: rest) := by
  cases grammar with
  | done blank => exact ends_blank blank (by cases frame <;> rfl) rest
  | item leads =>
    rw [List.append_assoc]
    exact leads.ends _

/-- The text of any value. -/
def ValueText (text : List Char) : Prop :=
  ∃ space value, Blank space ∧ Grammar .value value ∧ text = space ++ value

end ReqlLua.Json
