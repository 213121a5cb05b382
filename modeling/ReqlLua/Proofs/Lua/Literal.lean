import ReqlLua.Lua.Quoted

/-! Quoted texts as Lua reads them. A quoted text is read back as itself, with nothing of what follows it,
exactly if it holds no carriage return: that character ends a line in Lua, and quoting leaves it as it is. -/

namespace ReqlLua.Lua

/-- The character that a letter behind a backslash stands for. -/
def escaped? (letter : Char) : Option Char :=
  if letter = '\\' || letter = '\'' || letter = '"' then some letter
  else if letter = 'a' then some '\x07'
  else if letter = 'b' then some '\x08'
  else if letter = 'f' then some '\x0c'
  else if letter = 'n' then some '\n'
  else if letter = 'r' then some '\r'
  else if letter = 't' then some '\t'
  else if letter = 'v' then some '\x0b'
  else none

/-- What a literal holds behind its opening quote, and the text behind its closing quote. The end of a
line before that is an error. -/
def readBody? : List Char → Option (List Char × List Char)
  | [] => none
  | '\'' :: text => some ([], text)
  | '\\' :: letter :: text =>
    (escaped? letter).bind fun c => (readBody? text).map fun read => (c :: read.1, read.2)
  | c :: text =>
    if c = '\n' ∨ c = '\r' ∨ c = '\\' then none
    else (readBody? text).map fun read => (c :: read.1, read.2)

/-- The value of the literal at the front of a text, and the text behind it. -/
def readLiteral? : List Char → Option (String × List Char)
  | '\'' :: text => (readBody? text).map fun read => (String.ofList read.1, read.2)
  | _ => none

theorem readBody?_escaped {letter c : Char} (stands : escaped? letter = some c) (text : List Char) :
    readBody? ('\\' :: letter :: text) =
      (readBody? text).map fun read => (c :: read.1, read.2) := by
  rw [readBody?, stands, Option.bind_some]

theorem readBody?_plain {c : Char} (notQuote : c ≠ '\'') (notEscape : c ≠ '\\') (text : List Char) :
    readBody? (c :: text) =
      if c = '\n' ∨ c = '\r' then none
      else (readBody? text).map fun read => (c :: read.1, read.2) := by
  rw [readBody?]
  · simp only [notEscape, or_false]
  · exact notQuote
  · exact fun _ _ same => absurd same notEscape

/-- An escaped character is read as itself, unless it is the one that no escape stands for. -/
theorem readBody?_escape {c : Char} (kept : c ≠ '\r') (text : List Char) :
    readBody? (escape c ++ text) = (readBody? text).map fun read => (c :: read.1, read.2) := by
  unfold escape
  by_cases backslash : c = '\\'
  · rw [if_pos backslash, backslash]
    exact readBody?_escaped rfl text
  rw [if_neg backslash]
  by_cases quote : c = '\''
  · rw [if_pos quote, quote]
    exact readBody?_escaped rfl text
  rw [if_neg quote]
  by_cases lineFeed : c = '\n'
  · rw [if_pos lineFeed, lineFeed]
    exact readBody?_escaped rfl text
  rw [if_neg lineFeed, List.singleton_append, readBody?_plain quote backslash,
    if_neg (not_or.2 ⟨lineFeed, kept⟩)]

theorem readBody?_carriageReturn (text : List Char) : readBody? (escape '\r' ++ text) = none :=
  readBody?_plain (by decide) (by decide) text

theorem readBody?_flatMap (text rest : List Char) :
    readBody? (text.flatMap escape ++ '\'' :: rest) =
      if '\r' ∈ text then none else some (text, rest) := by
  induction text with
  | nil => rfl
  | cons c text ih =>
    rw [List.flatMap_cons, List.append_assoc]
    by_cases bare : c = '\r'
    · rw [bare, if_pos List.mem_cons_self]
      exact readBody?_carriageReturn _
    · rw [readBody?_escape bare, ih]
      have later : '\r' ∈ c :: text ↔ '\r' ∈ text := by
        rw [List.mem_cons]
        exact or_iff_right fun same => bare same.symm
      simp only [later]
      split <;> rfl

/-- Whatever follows it, a quoted text is read back as itself, and a carriage return in it is an error. -/
theorem readLiteral?_quoted (text : String) (rest : List Char) :
    readLiteral? ((quoted text).toList ++ rest) =
      if '\r' ∈ text.toList then none else some (text, rest) := by
  have written : (quoted text).toList ++ rest =
      '\'' :: (text.toList.flatMap escape ++ '\'' :: rest) := by
    rw [quoted, String.toList_ofList, List.cons_append, List.cons_append, List.append_assoc,
      List.singleton_append]
  rw [written, readLiteral?, readBody?_flatMap]
  split
  · rfl
  · rw [Option.map_some, String.ofList_toList]

/-- A carriage return stands in its literal as it is, and the literal is none. -/
theorem quoted_carriageReturn :
    quoted "\r" = "'\r'" ∧ readLiteral? (quoted "\r").toList = none ∧
      ¬∀ (text : String) (rest : List Char),
        readLiteral? ((quoted text).toList ++ rest) = some (text, rest) := by
  have unread : readLiteral? (quoted "\r").toList = none := by decide
  refine ⟨by decide, unread, fun all => ?_⟩
  have read := all "\r" []
  rw [List.append_nil, unread] at read
  cases read

end ReqlLua.Lua
