import ReqlLua.Json.Reading

/-! JSON numbers: reading them and passing over them. A whole number within 64 bits is kept
exactly; any other becomes a binary64 number, by rounding its digits and scaling the result. -/

namespace ReqlLua.Json

open Text (Read)

inductive Numeral where
  | natural (value : Nat)
  | negative (value : Int)
  | real (value : Binary64)
deriving DecidableEq

/-- What exponents stay below. -/
def exponentLimit : Nat := 0x80000000

/-- Adds digits to a number while it stays below `limit`. -/
def absorb (limit value : Nat) : List Char → Nat × List Char
  | [] => (value, [])
  | c :: rest =>
    let grown := 10 * value + Text.digitValue c
    if c.isDigit && grown < limit then absorb limit grown rest else (value, c :: rest)

theorem absorb_length_le (limit value : Nat) (text : List Char) :
    (absorb limit value text).2.length ≤ text.length := by
  induction text generalizing value with
  | nil => exact Nat.le_refl _
  | cons c rest ih =>
    simp only [absorb]
    split
    · exact Nat.le_succ_of_le (ih _)
    · exact Nat.le_refl _

def skipDigits (text : List Char) : List Char := text.dropWhile Char.isDigit

theorem skipDigits_length_le (text : List Char) : (skipDigits text).length ≤ text.length :=
  (List.dropWhile_sublist Char.isDigit).length_le

def startsWithDigit : List Char → Bool
  | c :: _ => c.isDigit
  | [] => false

/-- The power of ten, rounded. -/
def tenPower (exponent : Nat) : Dyadic := (Dyadic.ofNat? (Nat.pow 10 exponent)).getD .zero

/-- The greatest power of ten among the numbers of the format. -/
def greatestPower : Nat := 308

/-- Scales by a power of ten, rounding at every step; none if the result is too large. -/
def scale (x : Dyadic) (exponent : Int) : Option Dyadic :=
  if exponent.natAbs ≤ greatestPower then
    if 0 ≤ exponent then x.mul? (tenPower exponent.natAbs) else x.div? (tenPower exponent.natAbs)
  else if x.significand = 0 then some x
  else if 0 ≤ exponent then none
  else scale ((x.div? (tenPower greatestPower)).getD .zero) (exponent + greatestPower)
termination_by exponent.natAbs
decreasing_by simp only [greatestPower] at *; omega

variable {limit : Nat}

/-- The number of the digits and the exponent read so far. -/
def finishReal (negative : Bool) (significand : Nat) (exponent : Int) (text : List Char)
    (bound : text.length < limit) : Except Fault (Read limit Numeral) :=
  match scale ((Dyadic.ofNat? significand).getD .zero) exponent with
  | some magnitude => .ok ⟨.real (.finite negative magnitude), text, bound⟩
  | none => .error (.here .numberTooLarge text)

/-- The digits of an exponent. An exponent beyond 31 bits is not added up to the end: it makes a
number zero or too large. -/
def readPower (negative : Bool) (significand : Nat) (exponent : Int) (small : Bool)
    (text : List Char) (bound : text.length < limit) : Except Fault (Read limit Numeral) :=
  match text with
  | [] => .error (.endOfText .value)
  | c :: rest =>
    if !c.isDigit then .error (.next .badNumber (c :: rest))
    else
      let power := absorb exponentLimit (Text.digitValue c) rest
      have le := absorb_length_le exponentLimit (Text.digitValue c) rest
      have short : power.2.length < limit := by
        simp only [List.length_cons] at bound; simp only [power]; omega
      if startsWithDigit power.2 then
        if significand ≠ 0 && !small then .error (.here .numberTooLarge (power.2.drop 1))
        else .ok ⟨.real (.finite negative .zero), skipDigits power.2,
          Nat.lt_of_le_of_lt (skipDigits_length_le _) short⟩
      else
        finishReal negative significand
          (if small then exponent - power.1 else exponent + power.1) power.2 short

/-- What follows the letter of an exponent. -/
def readExponent (negative : Bool) (significand : Nat) (exponent : Int) (text : List Char)
    (bound : text.length < limit) : Except Fault (Read limit Numeral) :=
  match text with
  | '+' :: rest => readPower negative significand exponent false rest (Nat.lt_of_succ_lt bound)
  | '-' :: rest => readPower negative significand exponent true rest (Nat.lt_of_succ_lt bound)
  | other => readPower negative significand exponent false other bound

/-- An exponent, if there is one. -/
def readScale (negative : Bool) (significand : Nat) (exponent : Int) (text : List Char)
    (bound : text.length < limit) : Except Fault (Read limit Numeral) :=
  match text with
  | c :: rest =>
    if c = 'e' || c = 'E' then
      readExponent negative significand exponent rest (Nat.lt_of_succ_lt bound)
    else finishReal negative significand exponent (c :: rest) bound
  | [] => finishReal negative significand exponent [] bound

/-- What follows a point. Digits beyond 64 bits are passed over. -/
def readFraction (negative : Bool) (significand : Nat) (exponent : Int) (text : List Char)
    (bound : text.length < limit) : Except Fault (Read limit Numeral) :=
  if startsWithDigit text then
    let grown := absorb Word.unsignedBound significand text
    have le := absorb_length_le Word.unsignedBound significand text
    readScale negative grown.1 (exponent - ((text.length - grown.2.length : Nat) : Int))
      (skipDigits grown.2)
      (Nat.lt_of_le_of_lt (Nat.le_trans (skipDigits_length_le _) le) bound)
  else if text.isEmpty then .error (.endOfText .value)
  else .error (.next .badNumber text)

/-- A whole number that is not followed by a fraction or an exponent. There is no whole number
minus zero. -/
def wholeNumeral (negative : Bool) (value : Nat) : Numeral :=
  if !negative then .natural value
  else if value ≠ 0 && value ≤ Word.signedBound then .negative (-(value : Int))
  else .real (.finite true ((Dyadic.ofNat? value).getD .zero))

/-- What follows the first digits of a number; those beyond 64 bits only scale it. -/
def readNumberTail (negative : Bool) (significand : Nat) (text : List Char)
    (bound : text.length < limit) : Except Fault (Read limit Numeral) :=
  let rest := skipDigits text
  have short : rest.length < limit := Nat.lt_of_le_of_lt (skipDigits_length_le text) bound
  let exponent : Int := ((text.length - rest.length : Nat) : Int)
  match rest with
  | '.' :: fraction =>
    readFraction negative significand exponent fraction (Nat.lt_of_succ_lt short)
  | other =>
    if exponent = 0 && !(other.head?.any fun c => c == 'e' || c == 'E') then
      .ok ⟨wholeNumeral negative significand, other, short⟩
    else readScale negative significand exponent other short

/-- A number whose sign has been read. -/
def readNumber (negative : Bool) (text : List Char) (bound : text.length ≤ limit) :
    Except Fault (Read limit Numeral) :=
  match text with
  | [] => .error (.endOfText .value)
  | c :: rest =>
    if c = '0' then
      if startsWithDigit rest then .error (.next .badNumber rest)
      else readNumberTail negative 0 rest bound
    else if c.isDigit then
      let grown := absorb Word.unsignedBound (Text.digitValue c) rest
      readNumberTail negative grown.1 grown.2
        (Nat.lt_of_le_of_lt (absorb_length_le _ _ rest) bound)
    else .error (.next .badNumber (c :: rest))

def skipSign : List Char → List Char
  | '+' :: rest => rest
  | '-' :: rest => rest
  | other => other

theorem skipSign_length_le (text : List Char) : (skipSign text).length ≤ text.length := by
  unfold skipSign
  split <;> simp

/-- Passes over an exponent, if there is one. -/
def skipScale (text : List Char) (bound : text.length < limit) : Except Fault (Read limit Unit) :=
  match text with
  | c :: rest =>
    if c = 'e' || c = 'E' then
      have short : rest.length < limit := Nat.lt_of_succ_lt bound
      let digits := skipSign rest
      have le := skipSign_length_le rest
      if startsWithDigit digits then
        .ok ⟨(), skipDigits digits,
          Nat.lt_of_le_of_lt (Nat.le_trans (skipDigits_length_le _) le) short⟩
      else .error (.next .badNumber digits)
    else .ok ⟨(), c :: rest, bound⟩
  | [] => .ok ⟨(), [], bound⟩

/-- Passes over a number whose sign has been read. -/
def skipNumber (text : List Char) (bound : text.length ≤ limit) : Except Fault (Read limit Unit) :=
  match text with
  | [] => .error (.next .badNumber [])
  | c :: rest =>
    if !c.isDigit then .error (.next .badNumber (c :: rest))
    else if c = '0' && startsWithDigit rest then .error (.next .badNumber rest)
    else
      let after := skipDigits rest
      have short : after.length < limit := Nat.lt_of_le_of_lt (skipDigits_length_le rest) bound
      match after with
      | '.' :: fraction =>
        if startsWithDigit fraction then
          skipScale (skipDigits fraction)
            (Nat.lt_of_le_of_lt (skipDigits_length_le _) (Nat.lt_of_succ_lt short))
        else .error (.next .badNumber fraction)
      | other => skipScale other short

end ReqlLua.Json
