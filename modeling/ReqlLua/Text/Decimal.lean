import ReqlLua.Number.Word

/-! Whole numbers written in decimal digits. -/

namespace ReqlLua.Text

def digitValue (c : Char) : Nat := c.toNat - '0'.toNat

/-- The number written by decimal digits, the most significant first. -/
def digitsValue (digits : List Char) : Nat :=
  digits.foldl (fun value c => 10 * value + digitValue c) 0

/-- The numbers of an unsigned 64-bit word: decimal digits, with a plus sign before them or not. -/
def unsigned? (text : String) : Option Nat :=
  let digits := match text.toList with
    | '+' :: rest => rest
    | all => all
  if digits.isEmpty || !digits.all Char.isDigit then none
  else
    let value := digitsValue digits
    if value < Word.unsignedBound then some value else none

end ReqlLua.Text
