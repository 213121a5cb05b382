import ReqlLua.Number.Shortest

/-! Texts of binary64 numbers. -/

namespace ReqlLua

/-- The choices that tell one way of writing numbers from another. The exponents from
`leastPositional` up to but not including `firstScientific` are those of first digits that are
written without an exponent. -/
structure NumberStyle where
  tie : Tie
  leastPositional : Option Int
  firstScientific : Option Int
  wholeEnding : String
deriving DecidableEq

namespace NumberStyle

def isPositional (style : NumberStyle) (exponent : Int) : Bool :=
  style.leastPositional.all (· ≤ exponent) && style.firstScientific.all (exponent < ·)

def zeros (count : Nat) : List Char := List.replicate count '0'

/-- Digits with the point in its place; `exponent` belongs to the first digit. -/
def positional (style : NumberStyle) (digits : List Char) (exponent : Int) : String :=
  if exponent < 0 then
    String.ofList ('0' :: '.' :: (zeros (-exponent - 1).toNat ++ digits))
  else
    let whole := exponent.toNat + 1
    if digits.length ≤ whole then
      String.ofList (digits ++ zeros (whole - digits.length)) ++ style.wholeEnding
    else String.ofList (digits.take whole ++ '.' :: digits.drop whole)

/-- One digit before the point; the exponent has a sign and at least two digits. -/
def scientific (digits : List Char) (exponent : Int) : String :=
  let fraction := digits.drop 1
  let point := if fraction.isEmpty then [] else '.' :: fraction
  let power := Nat.toDigits 10 exponent.natAbs
  String.ofList (digits.take 1 ++ point ++ ['e', if exponent < 0 then '-' else '+'] ++
    zeros (2 - power.length) ++ power)

def magnitude (style : NumberStyle) (x : Dyadic) : String :=
  if x.significand = 0 then "0" ++ style.wholeEnding
  else
    let decimal := Decimal.shortest style.tie x
    let all := Nat.toDigits 10 decimal.digits
    let exponent := decimal.exponent + all.length - 1
    let digits := (all.reverse.dropWhile (· == '0')).reverse
    if style.isPositional exponent then style.positional digits exponent
    else scientific digits exponent

def sign (negative : Bool) : String := if negative then "-" else ""

def text (style : NumberStyle) : Binary64 → String
  | .finite negative x => sign negative ++ style.magnitude x
  | .infinite negative => sign negative ++ "inf"
  | .nan => "NaN"

end NumberStyle

end ReqlLua
