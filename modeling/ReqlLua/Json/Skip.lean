import ReqlLua.Json.Numeral
import ReqlLua.Json.Quoted

/-! Passing over a JSON value of any kind. Lists and objects may be nested to any depth; numbers may
be of any size. -/

namespace ReqlLua.Json

open Text (Read)

/-- What encloses the place reached. -/
inductive Frame where
  | list
  | object
deriving DecidableEq

def Frame.closer : Frame → Char
  | .list => ']'
  | .object => '}'

def Frame.unfinished : Frame → Unfinished
  | .list => .list
  | .object => .object

def Frame.expectedComma : Frame → Reason
  | .list => .expectedCommaOrBracket
  | .object => .expectedCommaOrBrace

/-- A key and its colon. -/
def skipKey (limit : Nat) (text : List Char) (bound : text.length < limit) : Except Fault (Read limit Unit) :=
  match skipSpace text, skipSpace_length_le text with
  | '"' :: rest, (short : rest.length < text.length) =>
    match skipQuoted rest with
    | .error fault => .error fault
    | .ok ⟨_, after, shorter⟩ =>
      match colon : readColon after with
      | .error fault => .error fault
      | .ok value => .ok ⟨(), value, by have := readColon_length_lt colon; omega⟩
  | [], _ => .error (.next (.unfinished .object) [])
  | other, _ => .error (.next .keyNotString other)

/-- Goes to the next value inside a list or an object. -/
def skipToValue (limit : Nat) (frame : Frame) (text : List Char) (bound : text.length < limit) :
    Except Fault (Read limit Unit) :=
  match frame with
  | .list => .ok ⟨(), text, bound⟩
  | .object => skipKey limit text bound

/-- A value that holds no others. -/
def skipScalar (limit : Nat) (c : Char) (rest : List Char) (bound : rest.length < limit) :
    Except Fault (Read limit Unit) :=
  let word (letters : String) : Except Fault (Read limit Unit) :=
    match read : readWord letters.toList rest with
    | .error fault => .error fault
    | .ok after => .ok ⟨(), after, Nat.lt_of_le_of_lt (readWord_length_le read) bound⟩
  if c = 'n' then word "ull"
  else if c = 't' then word "rue"
  else if c = 'f' then word "alse"
  else if c = '-' then skipNumber rest (Nat.le_of_lt bound)
  else if c.isDigit then skipNumber (c :: rest) bound
  else if c = '"' then (skipQuoted rest).map (·.widen (Nat.le_of_lt bound))
  else .error (.next .expectedValue (c :: rest))

mutual

/-- Passes over a value and everything up to the end of the outermost of `frames`, which enclose
it, the innermost first. -/
def skipFrom (limit : Nat) (frames : List Frame) (text : List Char) (bound : text.length ≤ limit) :
    Except Fault (Read limit Unit) :=
  match skipSpace text, skipSpace_length_le text with
  | [], _ => .error (.next (.unfinished .value) [])
  | c :: rest, (short : rest.length < text.length) =>
    if c = '[' then skipOpened limit frames .list rest (Nat.lt_of_lt_of_le short bound)
    else if c = '{' then skipOpened limit frames .object rest (Nat.lt_of_lt_of_le short bound)
    else
      match skipScalar text.length c rest short with
      | .error fault => .error fault
      | .ok ⟨_, after, shorter⟩ => skipNext limit frames after (Nat.lt_of_lt_of_le shorter bound)
termination_by 2 * text.length

/-- The inside of a list or an object whose opening has been read. -/
def skipOpened (limit : Nat) (frames : List Frame) (frame : Frame) (text : List Char)
    (bound : text.length < limit) : Except Fault (Read limit Unit) :=
  match skipSpace text, skipSpace_length_le text with
  | [], _ => .error (.next (.unfinished frame.unfinished) [])
  | c :: rest, (short : rest.length < text.length) =>
    if c = frame.closer then skipNext limit frames rest (Nat.lt_trans short bound)
    else
      match skipToValue (text.length + 1) frame (c :: rest) (Nat.succ_lt_succ short) with
      | .error fault => .error fault
      | .ok ⟨_, after, shorter⟩ => skipFrom limit (frame :: frames) after (by omega)
termination_by 2 * text.length + 1

/-- What follows a value inside `frames`. -/
def skipNext (limit : Nat) (frames : List Frame) (text : List Char) (bound : text.length < limit) :
    Except Fault (Read limit Unit) :=
  match frames with
  | [] => .ok ⟨(), text, bound⟩
  | frame :: outer =>
    match skipSpace text, skipSpace_length_le text with
    | [], _ => .error (.next (.unfinished frame.unfinished) [])
    | c :: rest, (short : rest.length < text.length) =>
      if c = frame.closer then skipNext limit outer rest (Nat.lt_trans short bound)
      else if c = ',' then
        match skipToValue text.length frame rest short with
        | .error fault => .error fault
        | .ok ⟨_, after, shorter⟩ => skipFrom limit (frame :: outer) after (by omega)
      else .error (.next frame.expectedComma (c :: rest))
termination_by 2 * text.length

end

/-- Passes over one value. -/
def skipValue : Reader Unit := Text.unlimited fun limit => skipFrom limit []

end ReqlLua.Json
