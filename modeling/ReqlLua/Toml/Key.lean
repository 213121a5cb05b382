import ReqlLua.Toml.Quoted

/-! TOML keys: names joined by points. -/

namespace ReqlLua.Toml

open Text (Read)

def isBareChar (c : Char) : Bool := c.isAlphanum || c == '_' || c == '-'

/-- A name without quotes. -/
def readBareName : Reader String
  | [] => none
  | c :: rest =>
    if isBareChar c then
      some ⟨String.ofList (c :: rest.takeWhile isBareChar), rest.dropWhile isBareChar,
        Nat.lt_succ_of_le (List.dropWhile_sublist isBareChar).length_le⟩
    else none

/-- A name, with quotes or without, and the blanks around it. -/
def readName : Reader String := fun text =>
  match skipBlanks text, skipBlanks_length_le text with
  | [], _ => none
  | c :: rest, le =>
    let read := if c = '"' || c = '\'' then readShortString (c :: rest)
      else readBareName (c :: rest)
    read.map fun name =>
      ⟨name.value, skipBlanks name.rest,
        Nat.lt_of_le_of_lt (skipBlanks_length_le _) (Nat.lt_of_lt_of_le name.shorter le)⟩

/-- A key has fewer names than this, and values are nested less deep. -/
def depthLimit : Nat := 80

/-- The names behind the ones in `names`, which are in reverse. -/
def readNames (limit : Nat) (names : List String) (text : List Char) (bound : text.length < limit) :
    Option (Read limit (List String)) :=
  match text with
  | [] => some ⟨names.reverse, [], bound⟩
  | c :: rest =>
    if c = '.' then
      match readName rest with
      | none => none
      | some ⟨name, after, shorter⟩ =>
        readNames limit (name :: names) after (Text.length_lt_behind shorter bound)
    else some ⟨names.reverse, c :: rest, bound⟩
termination_by text.length
decreasing_by exact Nat.lt_succ_of_lt shorter

/-- A key, as the path of its names. -/
def readKey : Reader (List String) := fun text => do
  let name ← readName text
  let names ← readNames text.length [name.value] name.rest name.shorter
  if names.value.length < depthLimit then some names else none

end ReqlLua.Toml
