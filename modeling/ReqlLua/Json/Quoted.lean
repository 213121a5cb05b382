import ReqlLua.Json.Reading

/-! JSON strings: reading them, passing over them and writing them. -/

namespace ReqlLua.Json

open Text (Read)

def hexValue? (c : Char) : Option Nat :=
  if c.isDigit then some (c.toNat - '0'.toNat)
  else if 'a' ≤ c && c ≤ 'f' then some (c.toNat - 'a'.toNat + 10)
  else if 'A' ≤ c && c ≤ 'F' then some (c.toNat - 'A'.toNat + 10)
  else none

def hexUnit? (a b c d : Char) : Option Nat :=
  match hexValue? a, hexValue? b, hexValue? c, hexValue? d with
  | some a, some b, some c, some d => some (((a * 16 + b) * 16 + c) * 16 + d)
  | _, _, _, _ => none

/-- Four bytes are taken for the digits before they are looked at. -/
def badHex (text : List Char) : Fault :=
  if Text.byteLength text < 4 then .endOfText .string else ⟨.badEscape, text, 4⟩

/-- A code unit of four hexadecimal digits. -/
def readUnit : Reader Nat
  | a :: b :: c :: d :: rest =>
    match hexUnit? a b c d with
    | some unit => .ok ⟨unit, rest, by simp only [List.length_cons]; omega⟩
    | none => .error (badHex (a :: b :: c :: d :: rest))
  | text => .error (badHex text)

def isTrailing (unit : Nat) : Bool := 0xDC00 ≤ unit && unit < 0xE000
def isLeading (unit : Nat) : Bool := 0xD800 ≤ unit && unit < 0xDC00

/-- The second half of a surrogate pair, with its own `\u`. -/
def readTrailing (leading : Nat) : Reader Char
  | [] => .error (.endOfText .string)
  | '\\' :: [] => .error (.endOfText .string)
  | '\\' :: 'u' :: text => do
    let unit ← readUnit text
    if isTrailing unit.value then
      return ⟨Char.ofNat (0x10000 + (leading - 0xD800) * 0x400 + (unit.value - 0xDC00)), unit.rest,
        by have := unit.shorter; simp only [List.length_cons]; omega⟩
    else .error (.here .loneSurrogate unit.rest)
  | '\\' :: text => .error (.next .unpairedSurrogate text)
  | text => .error (.next .unpairedSurrogate text)

/-- The character that a `\u` stands for. -/
def readCodePoint : Reader Char := fun text => do
  let unit ← readUnit text
  if isTrailing unit.value then .error (.here .loneSurrogate unit.rest)
  else if isLeading unit.value then
    let pair ← readTrailing unit.value unit.rest
    return unit.onward pair
  else return ⟨Char.ofNat unit.value, unit.rest, unit.shorter⟩

/-- The character that a letter behind a backslash stands for. -/
def shortEscape? (c : Char) : Option Char :=
  if c = '"' || c = '\\' || c = '/' then some c
  else if c = 'b' then some '\x08'
  else if c = 'f' then some '\x0c'
  else if c = 'n' then some '\n'
  else if c = 'r' then some '\r'
  else if c = 't' then some '\t'
  else none

/-- What follows a backslash. -/
def readEscape : Reader Char
  | [] => .error (.endOfText .string)
  | c :: text =>
    match shortEscape? c with
    | some escaped => .ok ⟨escaped, text, by simp⟩
    | none =>
      if c = 'u' then do
        let point ← readCodePoint text
        return point.widen (by simp)
      else .error (.next .badEscape (c :: text))

/-- The rest of a string behind its opening quote. `read` holds the characters before, the last
one first. -/
def readBody (limit : Nat) (read : List Char) (text : List Char) (bound : text.length ≤ limit) :
    Except Fault (Read limit String) :=
  match text with
  | [] => .error (.endOfText .string)
  | c :: text =>
    if c = '"' then .ok ⟨String.ofList read.reverse, text, bound⟩
    else if c = '\\' then
      match readEscape text with
      | .error fault => .error fault
      | .ok ⟨escaped, rest, shorter⟩ =>
        readBody limit (escaped :: read) rest (by simp only [List.length_cons] at bound; omega)
    else if c.toNat < 0x20 then .error (.next .controlCharacter (c :: text))
    else readBody limit (c :: read) text (Nat.le_of_succ_le bound)
termination_by text.length

/-- A string whose opening quote has been read. -/
def readQuoted : Reader String := Text.unlimited fun limit => readBody limit []

/-- Passes over a string behind its opening quote. Code units need not make up characters. -/
def skipBody (limit : Nat) (text : List Char) (bound : text.length ≤ limit) :
    Except Fault (Read limit Unit) :=
  match text with
  | [] => .error (.endOfText .string)
  | c :: text =>
    if c = '"' then .ok ⟨(), text, bound⟩
    else if c = '\\' then
      match text with
      | [] => .error (.endOfText .string)
      | d :: text =>
        if (shortEscape? d).isSome then
          skipBody limit text (Nat.le_of_succ_le (Nat.le_of_succ_le bound))
        else if d = 'u' then
          match readUnit text with
          | .error fault => .error fault
          | .ok ⟨_, rest, shorter⟩ =>
            skipBody limit rest (by simp only [List.length_cons] at bound; omega)
        else .error (.next .badEscape (d :: text))
    else if c.toNat < 0x20 then .error (.here .controlCharacter (c :: text))
    else skipBody limit text (Nat.le_of_succ_le bound)
termination_by text.length
decreasing_by
  · exact Nat.lt_succ_of_lt (Nat.lt_succ_self _)
  · exact Nat.lt_succ_of_lt (Nat.lt_succ_of_lt shorter)
  · exact Nat.lt_succ_self _

def skipQuoted : Reader Unit := Text.unlimited skipBody

/-- A character inside a written string. -/
def escape (c : Char) : List Char :=
  if c = '"' then ['\\', '"']
  else if c = '\\' then ['\\', '\\']
  else if c = '\x08' then ['\\', 'b']
  else if c = '\x0c' then ['\\', 'f']
  else if c = '\n' then ['\\', 'n']
  else if c = '\r' then ['\\', 'r']
  else if c = '\t' then ['\\', 't']
  else if c.toNat < 0x20 then
    ['\\', 'u', '0', '0', Nat.digitChar (c.toNat / 16), Nat.digitChar (c.toNat % 16)]
  else [c]

def quoted (text : String) : String :=
  String.ofList ('"' :: text.toList.flatMap escape ++ ['"'])

end ReqlLua.Json
