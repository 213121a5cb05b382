import ReqlLua.Toml.Key
import ReqlLua.Toml.Moment
import ReqlLua.Toml.Number
import ReqlLua.Toml.Table

/-! Reading TOML documents. -/

namespace ReqlLua.Toml

open Text (Read)

variable {limit : Nat}

/-- The items of an array behind its bracket. `items` holds those before, the last one first. -/
def readItems (element : Reader Value) (limit : Nat) (items : List Value) (text : List Char)
    (bound : text.length < limit) : Option (Read limit Value) :=
  match skipLines (text.length + 1) text (Nat.lt_succ_self _) with
  | none => none
  | some ⟨_, [], _⟩ => none
  | some ⟨_, c :: rest, short⟩ =>
    if c = ']' then
      some ⟨.array items.reverse, rest, Nat.lt_of_lt_of_le (Nat.lt_of_succ_lt_succ short)
        (Nat.le_of_lt bound)⟩
    else
      match element (c :: rest) with
      | none => none
      | some ⟨item, after, less⟩ =>
        have fewer : after.length < text.length :=
          Nat.lt_of_lt_of_le less (Nat.le_of_lt_succ short)
        match skipLines text.length after fewer with
        | some ⟨_, c :: next, nextShort⟩ =>
          have less : next.length < text.length := Text.length_lt_of_cons nextShort
          if c = ',' then readItems element limit (item :: items) next (Nat.lt_trans less bound)
          else if c = ']' then
            some ⟨.array (item :: items).reverse, next, Nat.lt_trans less bound⟩
          else none
        | _ => none
termination_by text.length
decreasing_by exact less

/-- The sign and the value of an assignment whose key has been read, and the blanks around them. -/
def readAssigned (element : Reader Value) : Reader Value
  | '=' :: rest =>
    (element (skipBlanks rest)).map fun read =>
      ⟨read.value, skipBlanks read.rest,
        Nat.lt_of_le_of_lt (skipBlanks_length_le _) (Nat.lt_of_lt_of_le read.shorter
          (Nat.le_succ_of_le (skipBlanks_length_le rest)))⟩
  | _ => none

/-- The assignments of an inline table behind its brace, at least one of which is to come.
`assignments` holds those before, the last one first. -/
def readAssignments (element : Reader Value) (limit : Nat)
    (assignments : List (List String × Value)) (text : List Char) (bound : text.length < limit) :
    Option (Read limit (List (List String × Value))) :=
  match readKey text with
  | none => none
  | some ⟨key, rest, shorter⟩ =>
    match readAssigned element rest with
    | none => none
    | some ⟨value, c :: after, less⟩ =>
      have shorter : after.length < text.length :=
        Nat.lt_trans (Text.length_lt_of_cons less) shorter
      if c = ',' then
        readAssignments element limit ((key, value) :: assignments) after
          (Nat.lt_trans shorter bound)
      else if c = '}' then
        some ⟨((key, value) :: assignments).reverse, after, Nat.lt_trans shorter bound⟩
      else none
    | _ => none
termination_by text.length
decreasing_by exact shorter

/-- An inline table behind its brace. -/
def readInlineTable (element : Reader Value) (limit : Nat) (text : List Char)
    (bound : text.length < limit) : Option (Read limit Value) :=
  match skipBlanks text, skipBlanks_length_le text with
  | '}' :: rest, le => some ⟨.table [], rest, Nat.lt_trans le bound⟩
  | _, _ =>
    match readAssignments element limit [] text bound with
    | none => none
    | some ⟨assignments, rest, shorter⟩ =>
      (inlineTable? assignments).map fun value => ⟨value, rest, shorter⟩

/-- A value in which no more than `depth` arrays and inline tables are nested. -/
def readValue (depth : Nat) : Reader Value
  | [] => none
  | c :: rest =>
    if c = '"' || c = '\'' then (readString (c :: rest)).map (·.map .string)
    else if startsMoment (c :: rest) then
      (readMoment (c :: rest)).map (·.map fun moment => .moment moment.text)
    else if c = 't' then
      match rest with
      | 'r' :: 'u' :: 'e' :: after =>
        some ⟨.boolean true, after, by simp only [List.length_cons]; omega⟩
      | _ => none
    else if c = 'f' then
      match rest with
      | 'a' :: 'l' :: 's' :: 'e' :: after =>
        some ⟨.boolean false, after, by simp only [List.length_cons]; omega⟩
      | _ => none
    else
      match depth with
      | 0 => if c = '[' || c = '{' then none else readNumber (c :: rest)
      | depth + 1 =>
        if c = '[' then readItems (readValue depth) _ [] rest (Nat.lt_succ_self _)
        else if c = '{' then readInlineTable (readValue depth) _ rest (Nat.lt_succ_self _)
        else readNumber (c :: rest)

/-- The end of a header: as many brackets as at its start. -/
def closeHeader (isArray : Bool) : Reader Unit
  | ']' :: ']' :: rest =>
    if isArray then some ((Read.single () ']' rest).behind ']')
    else some (.single () ']' (']' :: rest))
  | ']' :: rest => if isArray then none else some (.single () ']' rest)
  | _ => none

/-- A header behind the brackets at its start. -/
def readHeader (draft : Draft) (isArray : Bool) (limit : Nat) (text : List Char)
    (bound : text.length < limit) : Option (Read limit Draft) :=
  match readKey text with
  | none => none
  | some ⟨path, rest, shorter⟩ =>
    match closeHeader isArray rest with
    | none => none
    | some ⟨_, after, less⟩ =>
      match readLineTail limit after (Text.length_lt_trans_bound less shorter bound),
          draft.header path isArray with
      | some ⟨_, next, nextShort⟩, some started => some ⟨started, next, nextShort⟩
      | _, _ => none

/-- An assignment on a line of its own. -/
def readAssignment (draft : Draft) : Reader Draft := fun text =>
  match readKey text with
  | none => none
  | some key =>
    match readAssigned (readValue (depthLimit - 1)) key.rest with
    | none => none
    | some ⟨value, after, less⟩ =>
      match readLineTail key.rest.length after less, key.value.getLast? with
      | some tail, some name =>
        (draft.assign key.value.dropLast name value).map fun grown =>
          key.onward (tail.map fun _ => grown)
      | _, _ => none

/-- One statement: a comment, a line end, a header or an assignment. -/
def readStatement (draft : Draft) : Reader Draft
  | [] => none
  | '#' :: rest =>
    (readLineTail _ (rest.dropWhile isTextChar)
      (Nat.lt_succ_of_le (List.dropWhile_sublist isTextChar).length_le)).map (·.map fun _ => draft)
  | '[' :: '[' :: rest => readHeader draft true _ rest (by simp only [List.length_cons]; omega)
  | '[' :: rest => readHeader draft false _ rest (Nat.lt_succ_self _)
  | c :: rest =>
    if c = '\n' || c = '\r' then (readLineEnd (c :: rest)).map (·.map fun _ => draft)
    else readAssignment draft (c :: rest)

def readStatements (draft : Draft) (text : List Char) : Option Draft :=
  match skipBlanks text, skipBlanks_length_le text with
  | [], _ => some draft
  | c :: rest, _le =>
    match readStatement draft (c :: rest) with
    | none => none
    | some ⟨grown, after, _less⟩ => readStatements grown after
termination_by text.length
decreasing_by omega

/-- A mark of the byte order at the start does not belong to the document. -/
def skipMark : List Char → List Char
  | c :: rest => if c.toNat = 0xFEFF then rest else c :: rest
  | [] => []

/-- The document that a text spells, if it is well formed. -/
def Document.ofText? (text : String) : Option Document := do
  (← readStatements .empty (skipMark text.toList)).finish

end ReqlLua.Toml
