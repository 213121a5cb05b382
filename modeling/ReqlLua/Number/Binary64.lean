import ReqlLua.Number.Word

/-! Numbers of the IEEE 754 format binary64, as exact products of a whole number and a power of
two, and the rounding of exact quotients to them. -/

namespace ReqlLua

/-- The nonnegative number `significand * 2 ^ exponent`. Rounding yields significands below
`2 ^ 53`, and those below `2 ^ 52` only at the least exponent. -/
structure Dyadic where
  significand : Nat
  exponent : Int
deriving DecidableEq, Repr

namespace Dyadic

def zero : Dyadic := ⟨0, -1074⟩

/-- The least significand of full length, the 52nd power of two. -/
def leastNormal : Nat := 0x10000000000000

/-- Numerator and denominator. -/
def quotient (x : Dyadic) : Nat × Nat :=
  (x.significand * Nat.pow 2 x.exponent.toNat, Nat.pow 2 (-x.exponent).toNat)

/-- The whole number nearest to a quotient, an even one if two are equally near. -/
def divideToEven (numerator denominator : Nat) : Nat :=
  let whole := numerator / denominator
  let twice := 2 * (numerator % denominator)
  if twice < denominator then whole
  else if denominator < twice then whole + 1
  else whole + whole % 2

/-- Whether `base ^ exponent` is at most a quotient. -/
def powerLe (base : Nat) (exponent : Int) (numerator denominator : Nat) : Bool :=
  Nat.pow base exponent.toNat * denominator ≤ numerator * Nat.pow base (-exponent).toNat

/-- The greatest exponent whose power of two is at most a positive quotient. -/
def log2Quotient (numerator denominator : Nat) : Int :=
  let guess : Int := (numerator.log2 : Int) - (denominator.log2 : Int)
  if powerLe 2 guess numerator denominator then guess else guess - 1

/-- The number of the format nearest to a quotient, ties to even; none if the quotient is beyond
the largest number of the format. -/
def nearest? (numerator denominator : Nat) : Option Dyadic :=
  if numerator = 0 then some zero
  else
    let exponent := max (log2Quotient numerator denominator - 52) (-1074)
    let significand :=
      divideToEven (numerator * Nat.pow 2 (-exponent).toNat)
        (denominator * Nat.pow 2 exponent.toNat)
    let x : Dyadic := if significand = 2 * leastNormal then ⟨leastNormal, exponent + 1⟩
      else ⟨significand, exponent⟩
    if 971 < x.exponent then none else some x

def ofNat? (n : Nat) : Option Dyadic := nearest? n 1

/-- The product, rounded. -/
def mul? (x y : Dyadic) : Option Dyadic :=
  nearest? (x.quotient.1 * y.quotient.1) (x.quotient.2 * y.quotient.2)

/-- The quotient by a positive number, rounded. -/
def div? (x y : Dyadic) : Option Dyadic :=
  nearest? (x.quotient.1 * y.quotient.2) (x.quotient.2 * y.quotient.1)

/-- The number of the format nearest to `significand * 10 ^ exponent`. Exponents that lead far
beyond the format's range are settled by the number of digits alone. -/
def ofDecimal? (significand : Nat) (exponent : Int) : Option Dyadic :=
  let size : Int := exponent + (Nat.toDigits 10 significand).length
  if significand = 0 || size < -400 then some zero
  else if 400 < size then none
  else nearest? (significand * Nat.pow 10 exponent.toNat) (Nat.pow 10 (-exponent).toNat)

end Dyadic

inductive Binary64 where
  | finite (negative : Bool) (magnitude : Dyadic)
  | infinite (negative : Bool)
  | nan
deriving DecidableEq, Repr

namespace Binary64

/-- The whole number nearest to a number, halves away from zero, within the bounds of unsigned
64-bit words. What is not a number counts as zero. -/
def toWord : Binary64 → Nat
  | .finite false magnitude =>
    let (numerator, denominator) := magnitude.quotient
    min ((2 * numerator + denominator) / (2 * denominator)) (Word.unsignedBound - 1)
  | .infinite false => Word.unsignedBound - 1
  | _ => 0

end Binary64

end ReqlLua
