import ReqlLua.Text.Decimal
import ReqlLua.Toml.Lexeme

/-! TOML dates and times, and the text they are written back as. -/

namespace ReqlLua.Toml

open Text (Read)

structure Date where
  year : Nat
  month : Nat
  day : Nat
deriving DecidableEq

/-- The fraction of the second is kept to nine places. -/
structure Time where
  hour : Nat
  minute : Nat
  second : Nat
  nanosecond : Nat
deriving DecidableEq

/-- The distance from universal time, in minutes. -/
inductive Offset where
  | zulu
  | minutes (behind : Bool) (count : Nat)
deriving DecidableEq

inductive Moment where
  | date (date : Date)
  | time (time : Time)
  | dateTime (date : Date) (time : Time) (offset : Option Offset)
deriving DecidableEq

/-! ### Writing -/

/-- A number with zeros before it, up to a width. -/
def padded (width n : Nat) : List Char :=
  let digits := Nat.toDigits 10 n
  List.replicate (width - digits.length) '0' ++ digits

def Date.text (date : Date) : List Char :=
  padded 4 date.year ++ '-' :: padded 2 date.month ++ '-' :: padded 2 date.day

def Time.text (time : Time) : List Char :=
  let fraction := ((padded 9 time.nanosecond).reverse.dropWhile (· == '0')).reverse
  padded 2 time.hour ++ ':' :: padded 2 time.minute ++ ':' :: padded 2 time.second ++
    (if fraction.isEmpty then [] else '.' :: fraction)

/-- No distance is never behind. -/
def Offset.text : Offset → List Char
  | .zulu => ['Z']
  | .minutes behind count =>
    (if behind && count ≠ 0 then '-' else '+') :: padded 2 (count / 60) ++ ':' :: padded 2 (count % 60)

def Moment.text : Moment → String
  | .date day => String.ofList day.text
  | .time clock => String.ofList clock.text
  | .dateTime day clock offset =>
    String.ofList (day.text ++ 'T' :: clock.text ++ (offset.map Offset.text).getD [])

/-! ### Reading -/

def isLeapYear (year : Nat) : Bool := year % 4 == 0 && (year % 100 != 0 || year % 400 == 0)

def daysIn (year month : Nat) : Nat :=
  if month = 2 then if isLeapYear year then 29 else 28
  else if month = 4 || month = 6 || month = 9 || month = 11 then 30
  else 31

/-- A number of two digits within bounds. -/
def twoDigits? (least most : Nat) (a b : Char) : Option Nat :=
  if a.isDigit && b.isDigit then
    let value := Text.digitsValue [a, b]
    if least ≤ value && value ≤ most then some value else none
  else none

/-- Four digits and a hyphen start a date and nothing else. -/
def startsDate : List Char → Bool
  | a :: b :: c :: d :: '-' :: _ => a.isDigit && b.isDigit && c.isDigit && d.isDigit
  | _ => false

/-- An hour and a colon start a time and nothing else. -/
def startsTime : List Char → Bool
  | a :: b :: ':' :: _ => (twoDigits? 0 23 a b).isSome
  | _ => false

def readDate : Reader Date
  | a :: b :: c :: d :: '-' :: e :: f :: '-' :: g :: h :: rest => do
    let year := Text.digitsValue [a, b, c, d]
    let month ← twoDigits? 1 12 e f
    let day ← twoDigits? 1 (daysIn year month) g h
    return ⟨⟨year, month, day⟩, rest, by simp only [List.length_cons]; omega⟩
  | _ => none

/-- The digits behind a point, as billionths; those beyond the ninth do not count. -/
def nanoseconds (digits : List Char) : Nat :=
  let kept := digits.take 9
  Text.digitsValue kept * Nat.pow 10 (9 - kept.length)

/-- A fraction of a second, if there is one. -/
def readFraction (limit : Nat) (text : List Char) (bound : text.length < limit) : Read limit Nat :=
  match text with
  | '.' :: c :: rest =>
    if c.isDigit then
      ⟨nanoseconds (c :: rest.takeWhile Char.isDigit), rest.dropWhile Char.isDigit, by
        have := (List.dropWhile_sublist (l := rest) Char.isDigit).length_le
        simp only [List.length_cons] at bound; omega⟩
    else ⟨0, '.' :: c :: rest, bound⟩
  | other => ⟨0, other, bound⟩

def readTime : Reader Time
  | a :: b :: ':' :: c :: d :: ':' :: e :: f :: rest => do
    let hour ← twoDigits? 0 23 a b
    let minute ← twoDigits? 0 59 c d
    let second ← twoDigits? 0 60 e f
    let fraction := readFraction (rest.length + 8) rest (by omega)
    return ⟨⟨hour, minute, second, fraction.value⟩, fraction.rest, fraction.shorter⟩
  | _ => none

/-- An offset, if there is one; a sign must be followed by hours and minutes. -/
def readOffset (limit : Nat) (text : List Char) (bound : text.length < limit) :
    Option (Read limit (Option Offset)) :=
  match text with
  | 'Z' :: rest | 'z' :: rest => some ⟨some .zulu, rest, Nat.lt_of_succ_lt bound⟩
  | c :: rest =>
    if c = '+' || c = '-' then
      match rest with
      | a :: b :: ':' :: d :: e :: after => do
        let hours ← twoDigits? 0 23 a b
        let minutes ← twoDigits? 0 59 d e
        return ⟨some (.minutes (c == '-') (hours * 60 + minutes)), after, by
          simp only [List.length_cons] at bound; omega⟩
      | _ => none
    else some ⟨none, c :: rest, bound⟩
  | [] => some ⟨none, [], bound⟩

def isTimeMark (c : Char) : Bool := c == 'T' || c == 't' || c == ' '

/-- What may follow a date: a time behind a `T` or a blank. -/
def readDateTail (limit : Nat) (date : Date) (text : List Char) (bound : text.length < limit) :
    Option (Read limit Moment) :=
  match text with
  | [] => some ⟨.date date, [], bound⟩
  | c :: rest =>
    if isTimeMark c && startsTime rest then do
      let time ← readTime rest
      let offset ← readOffset limit time.rest
        (Nat.lt_trans time.shorter (Nat.lt_of_succ_lt bound))
      return offset.map (.dateTime date time.value)
    else some ⟨.date date, c :: rest, bound⟩

/-- A date, a time or both. -/
def readMoment : Reader Moment := fun text =>
  if startsDate text then do
    let date ← readDate text
    readDateTail text.length date.value date.rest date.shorter
  else (readTime text).map (·.map .time)

def startsMoment (text : List Char) : Bool := startsDate text || startsTime text

end ReqlLua.Toml
