import ReqlLua.Json.Fault
import ReqlLua.Text.Read

/-! Reading JSON from the front of a text. Every reader takes at least one character, and its
result carries the proof of that. -/

namespace ReqlLua.Json

open Text (Read)

abbrev Reader (α : Type) := (text : List Char) → Except Fault (Read text.length α)

def isSpace (c : Char) : Bool := c == ' ' || c == '\n' || c == '\t' || c == '\r'

def skipSpace (text : List Char) : List Char := text.dropWhile isSpace

theorem skipSpace_length_le (text : List Char) : (skipSpace text).length ≤ text.length :=
  (List.dropWhile_sublist isSpace).length_le

/-- The rest of a word whose first letter has been read. -/
def readWord : List Char → (text : List Char) → Except Fault (List Char)
  | [], text => .ok text
  | _ :: _, [] => .error (.endOfText .value)
  | expected :: word, c :: rest =>
    if c = expected then readWord word rest else .error (.next .expectedWord (c :: rest))

theorem readWord_length_le {word text rest : List Char} (read : readWord word text = .ok rest) :
    rest.length ≤ text.length := by
  induction word generalizing text with
  | nil => cases read; exact Nat.le_refl _
  | cons expected word ih =>
    cases text with
    | nil => cases read
    | cons c text =>
      simp only [readWord] at read
      split at read
      · exact Nat.le_succ_of_le (ih read)
      · cases read

/-- The colon between a key and its value. -/
def readColon (text : List Char) : Except Fault (List Char) :=
  match skipSpace text with
  | ':' :: rest => .ok rest
  | [] => .error (.next (.unfinished .object) [])
  | other => .error (.next .expectedColon other)

theorem readColon_length_lt {text rest : List Char} (read : readColon text = .ok rest) :
    rest.length < text.length := by
  have bound := skipSpace_length_le text
  simp only [readColon] at read
  split at read
  · next same => rw [same] at bound; cases read; exact bound
  · cases read
  · cases read

end ReqlLua.Json
