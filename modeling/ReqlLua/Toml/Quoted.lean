import ReqlLua.Json.Quoted
import ReqlLua.Toml.Lexeme

/-! TOML strings: basic and literal, on one line and on several. -/

namespace ReqlLua.Toml

open Text (Read)

/-- The number written by `count` hexadecimal digits, after `value`. -/
def readHex (count value : Nat) (text : List Char) : Option (Nat × List Char) :=
  match count, text with
  | 0, rest => some (value, rest)
  | _ + 1, [] => none
  | count + 1, c :: rest =>
    match Json.hexValue? c with
    | none => none
    | some digit => readHex count (16 * value + digit) rest

theorem readHex_length_le {count value : Nat} {text : List Char} {result : Nat × List Char}
    (read : readHex count value text = some result) : result.2.length ≤ text.length := by
  induction count generalizing value text with
  | zero => cases read; exact Nat.le_refl _
  | succ count ih =>
    cases text with
    | nil => cases read
    | cons c rest =>
      simp only [readHex] at read
      split at read
      · cases read
      · exact Nat.le_succ_of_le (ih read)

/-- The character of a code point given by its hexadecimal digits. -/
def readCodePoint (count : Nat) (text : List Char) :
    Option (Char × { rest : List Char // rest.length ≤ text.length }) :=
  match read : readHex count 0 text with
  | none => none
  | some (code, rest) =>
    if code.isValidChar then some (Char.ofNat code, ⟨rest, readHex_length_le read⟩) else none

def shortEscape? (c : Char) : Option Char :=
  if c = '"' || c = '\\' then some c
  else if c = 'b' then some '\x08'
  else if c = 't' then some '\t'
  else if c = 'n' then some '\n'
  else if c = 'f' then some '\x0c'
  else if c = 'r' then some '\r'
  else none

/-- What follows a backslash. -/
def readEscape : Reader Char
  | [] => none
  | c :: text =>
    match shortEscape? c with
    | some escaped => some (.single escaped c text)
    | none =>
      let point := if c = 'u' then readCodePoint 4 text
        else if c = 'U' then readCodePoint 8 text
        else none
      point.map fun point => ⟨point.1, point.2.1, Nat.lt_succ_of_le point.2.2⟩

/-- The rest of a basic string behind its quote. `read` holds what came before, the last character
first. -/
def readBasic (limit : Nat) (read : List Char) (text : List Char) (bound : text.length ≤ limit) :
    Option (Read limit String) :=
  match text with
  | [] => none
  | c :: rest =>
    if c = '"' then some ⟨String.ofList read.reverse, rest, bound⟩
    else if c = '\\' then
      match readEscape rest with
      | none => none
      | some ⟨escaped, after, shorter⟩ =>
        readBasic limit (escaped :: read) after (by simp only [List.length_cons] at bound; omega)
    else if isTextChar c then readBasic limit (c :: read) rest (Nat.le_of_succ_le bound)
    else none
termination_by text.length

/-- The rest of a literal string behind its apostrophe. -/
def readLiteral (limit : Nat) (read : List Char) (text : List Char) (bound : text.length ≤ limit) :
    Option (Read limit String) :=
  match text with
  | [] => none
  | c :: rest =>
    if c = '\'' then some ⟨String.ofList read.reverse, rest, bound⟩
    else if isTextChar c then readLiteral limit (c :: read) rest (Nat.le_of_succ_le bound)
    else none

/-! ### Strings of several lines -/

/-- A line end behind a backslash disappears, with all blanks and line ends behind it. -/
def skipBreaks : List Char → List Char
  | [] => []
  | '\n' :: rest => skipBreaks rest
  | '\r' :: '\n' :: rest => skipBreaks rest
  | c :: rest => if isBlank c then skipBreaks rest else c :: rest

theorem skipBreaks_length_le (text : List Char) : (skipBreaks text).length ≤ text.length := by
  fun_induction skipBreaks text with
  | case1 => exact Nat.le_refl _
  | case2 rest ih => exact Nat.le_succ_of_le ih
  | case3 rest ih => exact Nat.le_succ_of_le (Nat.le_succ_of_le ih)
  | case4 c rest _ _ blank ih => exact Nat.le_succ_of_le ih
  | case5 => exact Nat.le_refl _

/-- A line end as the text of a string: always a line feed. -/
def readStringBreak : Reader Char := fun text => (readLineEnd text).map (·.map fun _ => '\n')

/-- How a run of quotes reads: up to two are text, the last three of up to five close. -/
inductive QuoteRun where
  | text (count : Nat)
  | close (count : Nat)
  | tooLong

def quoteRun (quote : Char) (text : List Char) : QuoteRun :=
  let count := (text.takeWhile (· == quote)).length
  if count < 3 then .text count else if count < 6 then .close (count - 3) else .tooLong

/-- The character or the escape at the front of a basic string of several lines, where `none`
stands for a break that disappears. -/
def readLongChar (escapes : Bool) : Reader (Option Char)
  | [] => none
  | c :: rest =>
    if escapes && c == '\\' then
      match readEscape rest with
      | some read => some ((read.map some).behind c)
      | none =>
        match readLineEnd (skipBlanks rest) with
        | none => none
        | some ⟨_, after, shorter⟩ =>
          some ⟨none, skipBreaks after, by
            have := skipBlanks_length_le rest
            have := skipBreaks_length_le after
            simp only [List.length_cons]; omega⟩
    else if isTextChar c then some (.single (some c) c rest)
    else (readStringBreak (c :: rest)).map (·.map some)

/-- The rest of a string of several lines behind its three quotes. -/
def readLong (quote : Char) (escapes : Bool) (limit : Nat) (read : List Char) (text : List Char)
    (bound : text.length < limit) : Option (Read limit String) :=
  match text with
  | [] => none
  | c :: rest =>
    if c = quote then
      match quoteRun quote (c :: rest) with
      | .tooLong => none
      | .close count =>
        some ⟨String.ofList (List.replicate count quote ++ read).reverse,
          rest.drop (count + 2), by
            simp only [List.length_cons] at bound; simp only [List.length_drop]; omega⟩
      | .text count =>
        readLong quote escapes limit (List.replicate count quote ++ read) (rest.drop (count - 1))
          (by simp only [List.length_cons] at bound; simp only [List.length_drop]; omega)
    else
      match readLongChar escapes (c :: rest) with
      | none => none
      | some ⟨next, after, shorter⟩ =>
        readLong quote escapes limit (next.toList ++ read) after (Nat.lt_trans shorter bound)
termination_by text.length
decreasing_by
  all_goals simp only [List.length_cons, List.length_drop] at *; omega

/-- A line end right behind three quotes is not part of the string. -/
def skipFirstBreak (text : List Char) : List Char :=
  match readLineEnd text with
  | some ⟨_, rest, _⟩ => rest
  | none => text

theorem skipFirstBreak_length_le (text : List Char) :
    (skipFirstBreak text).length ≤ text.length := by
  unfold skipFirstBreak
  split
  · next rest shorter _ => exact Nat.le_of_lt shorter
  · exact Nat.le_refl _

/-- A string on one line. -/
def readShortString : Reader String
  | '"' :: rest => (Text.unlimited (fun limit => readBasic limit []) rest).map (·.behind '"')
  | '\'' :: rest => (Text.unlimited (fun limit => readLiteral limit []) rest).map (·.behind '\'')
  | _ => none

/-- A string of any of the four kinds. -/
def readString : Reader String
  | '"' :: '"' :: '"' :: rest =>
    readLong '"' true _ [] (skipFirstBreak rest)
      (by have := skipFirstBreak_length_le rest; simp only [List.length_cons]; omega)
  | '\'' :: '\'' :: '\'' :: rest =>
    readLong '\'' false _ [] (skipFirstBreak rest)
      (by have := skipFirstBreak_length_le rest; simp only [List.length_cons]; omega)
  | text => readShortString text

end ReqlLua.Toml
