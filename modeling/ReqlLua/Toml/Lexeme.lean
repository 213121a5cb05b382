import ReqlLua.Text.Read

/-! Blanks, line ends and comments of TOML documents. Only well-formed documents are of interest,
so a reader yields nothing where one is not. -/

namespace ReqlLua.Toml

open Text (Read)

abbrev Reader (α : Type) := (text : List Char) → Option (Read text.length α)

def isBlank (c : Char) : Bool := c == ' ' || c == '\t'

def skipBlanks (text : List Char) : List Char := text.dropWhile isBlank

theorem skipBlanks_length_le (text : List Char) : (skipBlanks text).length ≤ text.length :=
  (List.dropWhile_sublist isBlank).length_le

/-- Characters that comments and strings may hold: a tab and all that are no control characters of
ASCII. -/
def isTextChar (c : Char) : Bool := c == '\t' || 0x20 ≤ c.toNat && c.toNat != 0x7F

/-- What follows a line feed, or a line feed behind a carriage return. -/
def readLineEnd : Reader Unit
  | '\n' :: rest => some (.single () '\n' rest)
  | '\r' :: '\n' :: rest => some ((Read.single () '\n' rest).behind '\r')
  | _ => none

/-- What follows a comment, if there is one. -/
def skipComment : List Char → List Char
  | '#' :: rest => rest.dropWhile isTextChar
  | other => other

theorem skipComment_length_le (text : List Char) : (skipComment text).length ≤ text.length := by
  unfold skipComment
  split
  · exact Nat.le_succ_of_le (List.dropWhile_sublist isTextChar).length_le
  · exact Nat.le_refl _

/-- The end of a line that has been read: blanks, a comment, and a line end or the end of the
text. -/
def readLineTail (limit : Nat) (text : List Char) (bound : text.length < limit) :
    Option (Read limit Unit) :=
  let after := skipComment (skipBlanks text)
  have le : after.length ≤ text.length :=
    Nat.le_trans (skipComment_length_le _) (skipBlanks_length_le _)
  have short : after.length < limit := Nat.lt_of_le_of_lt le bound
  if after.isEmpty then some ⟨(), after, short⟩
  else (readLineEnd after).map (·.widen (Nat.le_of_lt short))

/-- Blanks, line ends and whole comments, as they may stand between the items of an array. -/
def skipLines (limit : Nat) (text : List Char) (bound : text.length < limit) :
    Option (Read limit Unit) :=
  match text with
  | [] => some ⟨(), [], bound⟩
  | c :: rest =>
    if isBlank c then skipLines limit rest (Text.length_lt_of_cons bound)
    else if c = '#' || c = '\n' || c = '\r' then
      match readLineEnd (skipComment (c :: rest)) with
      | none => none
      | some ⟨_, after, shorter⟩ =>
        have less : after.length < (c :: rest).length :=
          Nat.lt_of_lt_of_le shorter (skipComment_length_le _)
        skipLines limit after (Nat.lt_trans less bound)
    else some ⟨(), c :: rest, bound⟩
termination_by text.length
decreasing_by
  · exact Nat.lt_succ_self _
  · exact less

end ReqlLua.Toml
