import ReqlLua.Json.Quoted
import ReqlLua.Toml.Lexeme
import ReqlLua.Toml.Value

/-! TOML integers and floating-point numbers. -/

namespace ReqlLua.Toml

open Text (Read)

/-- Digits of a base with single underscores between them; what follows the last digit is left. -/
def readDigits (base : Nat) (afterDigit : Bool) : List Char → Option (List Nat × List Char)
  | [] => if afterDigit then some ([], []) else none
  | c :: rest =>
    if c = '_' && afterDigit then readDigits base false rest
    else
      match (Json.hexValue? c).filter (· < base) with
      | some digit => (readDigits base true rest).map fun (digits, after) => (digit :: digits, after)
      | none => if afterDigit then some ([], c :: rest) else none

theorem readDigits_length {base : Nat} {afterDigit : Bool} {text : List Char}
    {result : List Nat × List Char} (read : readDigits base afterDigit text = some result) :
    result.2.length + (if afterDigit then 0 else 1) ≤ text.length := by
  induction text generalizing afterDigit result with
  | nil =>
    simp only [readDigits] at read
    split at read
    · next after => cases read; simp [after]
    · cases read
  | cons c rest ih =>
    simp only [readDigits] at read
    split at read
    · have := ih read
      simp only [Bool.false_eq_true, if_false] at this
      simp only [List.length_cons]; split <;> omega
    · split at read
      · obtain ⟨tail, found, rfl⟩ := Option.map_eq_some_iff.1 read
        have := ih found
        simp only [if_true] at this
        simp only [List.length_cons]; split <;> omega
      · split at read
        · next after => cases read; simp [after]
        · cases read

/-- At least one digit. -/
def readNumerals (base : Nat) : Reader (List Nat) := fun text =>
  match read : readDigits base false text with
  | none => none
  | some (digits, rest) => some ⟨digits, rest, readDigits_length read⟩

def valueOf (base : Nat) (digits : List Nat) : Nat :=
  digits.foldl (fun value digit => base * value + digit) 0

/-- An integer, if 64 bits hold it. -/
def integer? (negative : Bool) (magnitude : Nat) : Option Value :=
  if negative then
    if magnitude ≤ Word.signedBound then some (.integer (-(magnitude : Int))) else none
  else if magnitude < Word.signedBound then some (.integer magnitude) else none

/-- A floating-point number. One that is too large to be told from infinity is refused, unless it
is negative. -/
def number? (negative : Bool) (digits : List Nat) (exponent : Int) : Option Value :=
  match Dyadic.ofDecimal? (valueOf 10 digits) exponent with
  | some magnitude => some (.number (.finite negative magnitude))
  | none => if negative then some (.number (.infinite true)) else none

/-- The digits before a point: a zero that stands alone, or digits that start with another. -/
def readWhole : Reader (List Nat)
  | '0' :: rest => some (.single [0] '0' rest)
  | text => readNumerals 10 text

/-- The exponent behind its letter. -/
def readPower : Reader Int
  | '+' :: rest => (readNumerals 10 rest).map fun read =>
    (read.map fun digits => (valueOf 10 digits : Int)).behind '+'
  | '-' :: rest => (readNumerals 10 rest).map fun read =>
    (read.map fun digits => -(valueOf 10 digits : Int)).behind '-'
  | text => (readNumerals 10 text).map (·.map fun digits => (valueOf 10 digits : Int))

/-- What may follow the fraction of a number, or its whole digits if `isInteger`. -/
def readScale {limit : Nat} (negative isInteger : Bool) (digits : List Nat) (exponent : Int) (text : List Char)
    (bound : text.length < limit) : Option (Read limit Value) :=
  let plain := if isInteger then integer? negative (valueOf 10 digits)
    else number? negative digits exponent
  match text with
  | [] => plain.map fun value => ⟨value, [], bound⟩
  | c :: rest =>
    if c = 'e' || c = 'E' then
      match readPower rest with
      | none => none
      | some ⟨power, after, shorter⟩ =>
        (number? negative digits (exponent + power)).map fun value =>
          ⟨value, after, Text.length_lt_behind shorter bound⟩
    else plain.map fun value => ⟨value, c :: rest, bound⟩

/-- A decimal number whose sign has been read. -/
def readDecimal (negative : Bool) : Reader Value := fun text =>
  match readWhole text with
  | none => none
  | some ⟨whole, '.' :: rest, shorter⟩ =>
    match readNumerals 10 rest with
    | none => none
    | some ⟨fraction, after, less⟩ =>
      readScale negative false (whole ++ fraction) (-(fraction.length : Int)) after
        (Nat.lt_trans less (Nat.lt_of_succ_lt shorter))
  | some ⟨whole, rest, shorter⟩ => readScale negative true whole 0 rest shorter

/-- A number whose sign has been read, the words for infinity and for no number among them. -/
def readSigned (negative : Bool) : Reader Value
  | 'i' :: 'n' :: 'f' :: rest =>
    some ⟨.number (.infinite negative), rest, by simp only [List.length_cons]; omega⟩
  | 'n' :: 'a' :: 'n' :: rest => some ⟨.number .nan, rest, by simp only [List.length_cons]; omega⟩
  | text => readDecimal negative text

/-- An integer in a base other than ten. -/
def readBased (base : Nat) : Reader Value := fun text =>
  match readNumerals base text with
  | none => none
  | some ⟨digits, rest, shorter⟩ =>
    (integer? false (valueOf base digits)).map fun value => ⟨value, rest, shorter⟩

/-- Any number. A base is given without a sign. -/
def readNumber : Reader Value
  | '0' :: 'x' :: rest => (readBased 16 rest).map fun read => (read.behind 'x').behind '0'
  | '0' :: 'o' :: rest => (readBased 8 rest).map fun read => (read.behind 'o').behind '0'
  | '0' :: 'b' :: rest => (readBased 2 rest).map fun read => (read.behind 'b').behind '0'
  | '+' :: rest => (readSigned false rest).map (·.behind '+')
  | '-' :: rest => (readSigned true rest).map (·.behind '-')
  | text => readSigned false text

end ReqlLua.Toml
