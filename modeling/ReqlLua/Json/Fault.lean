import ReqlLua.Number.Notation
import ReqlLua.Text.Bytes
import ReqlLua.Text.Decimal
import ReqlLua.Text.Quoted

/-! What can be wrong with a JSON document, and where. -/

namespace ReqlLua.Json

/-- What the text ends in the middle of. -/
inductive Unfinished where
  | value | list | object | string
deriving DecidableEq

/-- What stands where something else is expected. -/
inductive Found where
  | null
  | boolean (value : Bool)
  | integer (value : Int)
  | number (value : Binary64)
  | string (value : String)
  | list
  | object
deriving DecidableEq

/-- What a value must be. -/
inductive Expected where
  | integer
  | tags
  | record (name : String)
deriving DecidableEq

inductive Reason where
  | unfinished (what : Unfinished)
  | expectedValue
  | expectedWord
  | expectedColon
  | expectedCommaOrBrace
  | expectedCommaOrBracket
  | trailingComma
  | trailingCharacters
  | keyNotString
  | badNumber
  | numberTooLarge
  | badEscape
  | loneSurrogate
  | unpairedSurrogate
  | controlCharacter
  | wrongKind (found : Found) (expected : Expected)
  | integerTooLarge (value : Nat)
  | tooShort (length : Nat) (record : String) (fields : Nat)
  | missingField (name : String)
  | repeatedField (name : String)
  | repeatedIdentifier (name : String)
deriving DecidableEq

/-- Something wrong after all but `rest` has been read; `ahead` bytes of `rest` count as read. -/
structure Fault where
  reason : Reason
  rest : List Char
  ahead : Nat
deriving DecidableEq

namespace Fault

/-- The character next to be read counts as read. -/
def next (reason : Reason) (rest : List Char) : Fault := ⟨reason, rest, 1⟩

def here (reason : Reason) (rest : List Char) : Fault := ⟨reason, rest, 0⟩

def endOfText (what : Unfinished) : Fault := ⟨.unfinished what, [], 0⟩

end Fault

/-- Numbers in messages have the fewest digits that tell them, a half going to the even digit, and
an exponent from `1e+16` up and from `1e-06` down. -/
def numberStyle : NumberStyle := ⟨.toEven, some (-5), some 16, ".0"⟩

def Unfinished.text : Unfinished → String
  | .value => "value"
  | .list => "list"
  | .object => "object"
  | .string => "string"

def Found.text : Found → String
  | .null => "null"
  | .boolean value => "boolean `" ++ (if value then "true" else "false") ++ "`"
  | .integer value => "integer `" ++ toString value ++ "`"
  | .number value => "floating point `" ++ numberStyle.text value ++ "`"
  | .string value => "string " ++ Text.quoted value
  | .list => "sequence"
  | .object => "map"

def Expected.text : Expected → String
  | .integer => "i64"
  | .tags => "a map of identifiers to integer tags"
  | .record name => "struct " ++ name

def elementCount (count : Nat) : String :=
  toString count ++ (if count = 1 then " element" else " elements")

def Reason.text : Reason → String
  | .unfinished what => "EOF while parsing a" ++ (if what = .object then "n " else " ") ++ what.text
  | .expectedValue => "expected value"
  | .expectedWord => "expected ident"
  | .expectedColon => "expected `:`"
  | .expectedCommaOrBrace => "expected `,` or `\x7d`"
  | .expectedCommaOrBracket => "expected `,` or `]`"
  | .trailingComma => "trailing comma"
  | .trailingCharacters => "trailing characters"
  | .keyNotString => "key must be a string"
  | .badNumber => "invalid number"
  | .numberTooLarge => "number out of range"
  | .badEscape => "invalid escape"
  | .loneSurrogate => "lone leading surrogate in hex escape"
  | .unpairedSurrogate => "unexpected end of hex escape"
  | .controlCharacter => "control character (\\u0000-\\u001F) found while parsing a string"
  | .wrongKind found expected => "invalid type: " ++ found.text ++ ", expected " ++ expected.text
  | .integerTooLarge value =>
    "invalid value: integer `" ++ toString value ++ "`, expected " ++ Expected.integer.text
  | .tooShort length record fields =>
    "invalid length " ++ toString length ++ ", expected " ++ (Expected.record record).text ++
      " with " ++ elementCount fields
  | .missingField name => "missing field `" ++ name ++ "`"
  | .repeatedField name => "duplicate field `" ++ name ++ "`"
  | .repeatedIdentifier name => "duplicate identifier " ++ name

def placeWords (place : Text.Place) : String :=
  " at line " ++ toString place.line ++ " column " ++ toString place.column

/-- The text before the last ` at line L column C` and that place, if the text ends with one. -/
def statedPlace? (text : List Char) : Option (List Char × Text.Place) :=
  let column := text.reverse.takeWhile Char.isDigit
  let beforeColumn := text.reverse.drop column.length
  let columnWord := " column ".toList.reverse
  let lineWord := " at line ".toList.reverse
  if columnWord.isPrefixOf beforeColumn then
    let afterLine := beforeColumn.drop columnWord.length
    let line := afterLine.takeWhile Char.isDigit
    let beforeLine := afterLine.drop line.length
    if lineWord.isPrefixOf beforeLine then
      match Text.unsigned? (String.ofList line.reverse),
          Text.unsigned? (String.ofList column.reverse) with
      | some line, some column =>
        some ((beforeLine.drop lineWord.length).reverse, ⟨line, column⟩)
      | _, _ => none
    else none
  else none

/-- The place where reading stopped. -/
def Fault.place (source : List Char) (fault : Fault) : Text.Place :=
  let left := Text.byteLength fault.rest
  Text.Place.after (Text.byteLength source - left + min fault.ahead left) source

/-- What is wrong with a document and the place where it shows. -/
structure Complaint where
  reason : Reason
  place : Text.Place
deriving DecidableEq

def Fault.complaint (source : List Char) (fault : Fault) : Complaint :=
  ⟨fault.reason, fault.place source⟩

/-- Reason and place. A reason whose text ends with a place of its own keeps it, unless it is on
line zero. -/
def Complaint.message (complaint : Complaint) : String :=
  match statedPlace? complaint.reason.text.toList with
  | some (reason, stated) =>
    String.ofList reason ++ placeWords (if stated.line = 0 then complaint.place else stated)
  | none => complaint.reason.text ++ placeWords complaint.place

end ReqlLua.Json
