import ReqlLua.Text.Decimal
import ReqlLua.Text.Lowercase

/-! Keys of settings documents as paths: `a`, `a.b`, `a[0]` and so on. A key that is no path stands
for itself. Case does not matter. -/

namespace ReqlLua

/-- One step from a value into it. -/
inductive KeyStep where
  | member (name : String)
  | element (index : Int)
deriving DecidableEq

structure KeyPath where
  root : String
  steps : List KeyStep
deriving DecidableEq

namespace KeyPath

def isNameChar (c : Char) : Bool := c.isAlphanum || c == '_' || c == '-' || c == ' '

def isPadding (c : Char) : Bool := c == ' ' || c == '\t'

/-- The name at the front of a text, and what follows it. -/
def readName (text : List Char) : Option (String × List Char) :=
  let name := text.takeWhile isNameChar
  if name.isEmpty then none else some (Text.lowercase (String.ofList name), text.dropWhile isNameChar)

/-- An index of 64 bits at the front of a text, a minus before it or not. -/
def readIndex (text : List Char) : Option (Int × List Char) :=
  let (negative, digits) := match text with
    | '-' :: rest => (true, rest)
    | other => (false, other)
  let value := Text.digitsValue (digits.takeWhile Char.isDigit)
  let index : Int := if negative then -(value : Int) else (value : Int)
  if (digits.takeWhile Char.isDigit).isEmpty || index < -(Word.signedBound : Int) ||
      (Word.signedBound : Int) ≤ index then none
  else some (index, digits.dropWhile Char.isDigit)

/-- A step at the front of a text, and what follows it. -/
def readStep : List Char → Option (KeyStep × List Char)
  | '.' :: rest => (readName rest).map fun (name, after) => (.member name, after)
  | '[' :: rest => do
    let (index, after) ← readIndex (rest.dropWhile isPadding)
    match after.dropWhile isPadding with
    | ']' :: next => some (.element index, next)
    | _ => none
  | _ => none

/-- At most `fuel` steps, which take up all of a text. -/
def readSteps : (fuel : Nat) → List Char → Option (List KeyStep)
  | _, [] => some []
  | 0, _ :: _ => none
  | fuel + 1, c :: rest => do
    let (step, after) ← readStep (c :: rest)
    let steps ← readSteps fuel after
    return step :: steps

def read (text : List Char) : Option KeyPath := do
  let (root, rest) ← readName text
  let steps ← readSteps rest.length rest
  return ⟨root, steps⟩

def ofText (text : String) : KeyPath :=
  (read text.toList).getD ⟨Text.lowercase text, []⟩

end KeyPath

end ReqlLua
