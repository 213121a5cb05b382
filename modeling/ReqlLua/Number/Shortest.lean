import ReqlLua.Number.Binary64

/-! The fewest decimal digits that read back as a given binary64 number, and of those the digits
nearest to it. -/

namespace ReqlLua

/-- Which of two equally near digit strings is taken. -/
inductive Tie where
  | up
  | toEven
deriving DecidableEq

/-- The number `digits * 10 ^ exponent`. -/
structure Decimal where
  digits : Nat
  exponent : Int
deriving DecidableEq, Repr

namespace Decimal

/-- The numbers that read back as `x` reach from `low` to `high` in units of `unit`, which are
quarters of the last place of `x`; the ends belong to them if `closed`. -/
structure Basin where
  low : Nat
  value : Nat
  high : Nat
  closed : Bool

/-- Below a power of two the numbers of the format lie closer together. -/
def Basin.of (x : Dyadic) : Basin :=
  let step := if x.significand = Dyadic.leastNormal && -1074 < x.exponent then 1 else 2
  ⟨4 * x.significand - step, 4 * x.significand, 4 * x.significand + 2, x.significand % 2 == 0⟩

/-- Scales quarters of a last place and multiples of a power of ten to whole numbers. -/
structure Scale where
  quarter : Nat
  grid : Nat

def Scale.of (binary decimal : Int) : Scale :=
  ⟨Nat.pow 2 (binary - 2).toNat * Nat.pow 10 (-decimal).toNat,
    Nat.pow 10 decimal.toNat * Nat.pow 2 (2 - binary).toNat⟩

/-- Whether `digits` multiples of the grid read back as the number. -/
def Basin.holds (basin : Basin) (scale : Scale) (digits : Nat) : Bool :=
  let point := digits * scale.grid
  let low := basin.low * scale.quarter
  let high := basin.high * scale.quarter
  if basin.closed then low ≤ point && point ≤ high else low < point && point < high

/-- The grid points next to the number that read back as it, the nearest or preferred one first. -/
def gridDigits? (tie : Tie) (x : Dyadic) (exponent : Int) : Option Nat :=
  let basin := Basin.of x
  let scale := Scale.of x.exponent exponent
  let value := basin.value * scale.quarter
  let below := value / scale.grid
  let excess := value % scale.grid
  let downFirst := 2 * excess < scale.grid ||
    2 * excess == scale.grid && tie == .toEven && below % 2 == 0
  let candidates := if downFirst then [below, below + 1] else [below + 1, below]
  candidates.find? fun digits => 0 < digits && basin.holds scale digits

/-- The greatest exponent whose power of ten is at most a positive number. -/
def log10 (x : Dyadic) : Int :=
  let (numerator, denominator) := x.quotient
  let guess : Int := ((Nat.toDigits 10 numerator).length : Int) -
    ((Nat.toDigits 10 denominator).length : Int)
  if Dyadic.powerLe 10 guess numerator denominator then guess else guess - 1

/-- Seventeen digits always suffice. -/
def shortest (tie : Tie) (x : Dyadic) : Decimal :=
  let top := log10 x
  let found := (List.range 17).findSome? fun dropped =>
    let exponent := top - (dropped : Nat)
    (gridDigits? tie x exponent).map fun digits => (⟨digits, exponent⟩ : Decimal)
  found.getD ⟨0, 0⟩

end Decimal

end ReqlLua
