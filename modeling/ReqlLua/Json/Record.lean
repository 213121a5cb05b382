import ReqlLua.Json.Skip

/-! Reading JSON values of a known kind: 64-bit integers, objects of tags and records. A record is
written as an object with its fields in any order, among others that are passed over, or as the list
of its fields. -/

namespace ReqlLua.Json

open Text (Read)

/-- Why the inside of an object or a list is not read to its end. What is wrong with the whole is
noticed before the closing bracket and reported behind it. -/
inductive Halt where
  | fault (fault : Fault)
  | atClose (reason : Reason) (rest : List Char)

/-- What is wrong with a value that starts with `c` and is not of the expected kind. -/
def unexpected (expected : Expected) (c : Char) (rest : List Char) : Fault :=
  let wrong (found : Found) (after : List Char) : Fault := .here (.wrongKind found expected) after
  let word (letters : String) (found : Found) : Fault :=
    match readWord letters.toList rest with
    | .error fault => fault
    | .ok after => wrong found after
  let number (negative : Bool) (text : List Char) : Fault :=
    match Text.unlimited (fun _ => readNumber negative) text with
    | .error fault => fault
    | .ok ⟨.natural value, after, _⟩ => wrong (.integer value) after
    | .ok ⟨.negative value, after, _⟩ => wrong (.integer value) after
    | .ok ⟨.real value, after, _⟩ => wrong (.number value) after
  if c = 'n' then word "ull" .null
  else if c = 't' then word "rue" (.boolean true)
  else if c = 'f' then word "alse" (.boolean false)
  else if c = '-' then number true rest
  else if c.isDigit then number false (c :: rest)
  else if c = '"' then
    match readQuoted rest with
    | .error fault => fault
    | .ok ⟨value, after, _⟩ => wrong (.string value) after
  else if c = '[' then wrong .list (c :: rest)
  else if c = '{' then wrong .object (c :: rest)
  else .next .expectedValue (c :: rest)

/-! ### Integers -/

/-- The integer that a number stands for; numbers with a fraction or an exponent are none. -/
def integerOf (numeral : Numeral) (rest : List Char) : Except Fault Int64 :=
  match numeral with
  | .natural value =>
    if value < Word.signedBound then .ok (Int64.ofNat value) else .error (.here (.integerTooLarge value) rest)
  | .negative value => .ok (Int64.ofInt value)
  | .real value => .error (.here (.wrongKind (.number value) .integer) rest)

def readInteger : Reader Int64 := fun text =>
  match skipSpace text, skipSpace_length_le text with
  | [], _ => .error (.next (.unfinished .value) [])
  | c :: rest, (short : rest.length < text.length) =>
    if c = '-' || c.isDigit then do
      let read ← if c = '-' then readNumber true rest (Nat.le_of_lt short)
        else readNumber false (c :: rest) short
      let value ← integerOf read.value read.rest
      return ⟨value, read.rest, read.shorter⟩
    else .error (unexpected .integer c rest)

/-! ### Members of objects -/

/-- The next member of an object: its end, or a key whose colon is still to come. -/
inductive Next (text : List Char) where
  | closed (rest : List Char) (bound : rest.length ≤ text.length)
  | key (name : Read text.length String)

def readKey (text rest : List Char) (short : rest.length < text.length) :
    Except Fault (Next text) :=
  (readQuoted rest).map fun name => .key (name.widen (Nat.le_of_lt short))

/-- The key behind a comma. -/
def readNextKey (text after : List Char) (short : after.length < text.length) :
    Except Fault (Next text) :=
  match skipSpace after, skipSpace_length_le after with
  | '"' :: rest, (le : rest.length < after.length) => readKey text rest (Nat.lt_trans le short)
  | [], _ => .error (.next (.unfinished .value) [])
  | '}' :: rest, _ => .error (.next .trailingComma ('}' :: rest))
  | other, _ => .error (.next .keyNotString other)

def readMember (isFirst : Bool) (text : List Char) : Except Fault (Next text) :=
  match skipSpace text, skipSpace_length_le text with
  | [], _ => .error (.next (.unfinished .object) [])
  | c :: rest, le =>
    if c = '}' then .ok (.closed (c :: rest) le)
    else if isFirst then
      if c = '"' then readKey text rest le else .error (.next .keyNotString (c :: rest))
    else if c = ',' then readNextKey text rest le
    else .error (.next .expectedCommaOrBrace (c :: rest))

/-- The value behind the colon of a key. -/
def readMemberValue {α : Type} (reader : Reader α) : Reader α := fun text =>
  match colon : readColon text with
  | .error fault => .error fault
  | .ok rest =>
    (reader rest).map (·.widen (Nat.le_of_lt (readColon_length_lt colon)))

/-! ### Closing brackets -/

variable {α : Type} {limit : Nat}

/-- The end of an object, before which only space is allowed. -/
def closeObject (text : List Char) : Except Fault (List Char) :=
  match skipSpace text with
  | '}' :: rest => .ok rest
  | [] => .error (.next (.unfinished .object) [])
  | ',' :: rest => .error (.next .trailingComma (',' :: rest))
  | other => .error (.next .trailingCharacters other)

/-- The end of a list, before which only space is allowed. -/
def closeList (text : List Char) : Except Fault (List Char) :=
  match skipSpace text with
  | ']' :: rest => .ok rest
  | [] => .error (.next (.unfinished .list) [])
  | ',' :: rest =>
    match skipSpace rest with
    | ']' :: after => .error (.next .trailingComma (']' :: after))
    | other => .error (.next .trailingCharacters other)
  | other => .error (.next .trailingCharacters other)

/-- Where reading stands after an attempt to close. -/
def afterClosing (rest : List Char) : Except Fault (List Char) → List Char
  | .ok after => after
  | .error _ => skipSpace rest

theorem closeObject_length_le {text rest : List Char} (closed : closeObject text = .ok rest) :
    rest.length ≤ text.length := by
  have bound := skipSpace_length_le text
  simp only [closeObject] at closed
  split at closed
  · next same => rw [same] at bound; cases closed; exact Nat.le_of_lt bound
  all_goals cases closed

theorem closeList_length_le {text rest : List Char} (closed : closeList text = .ok rest) :
    rest.length ≤ text.length := by
  have bound := skipSpace_length_le text
  simp only [closeList] at closed
  split at closed
  · next same => rw [same] at bound; cases closed; exact Nat.le_of_lt bound
  · cases closed
  · split at closed <;> cases closed
  · cases closed

/-- Closes what has been read, or reports why it was not read to its end. -/
def finish (close : List Char → Except Fault (List Char))
    (bound : ∀ {text rest}, close text = .ok rest → rest.length ≤ text.length) :
    Except Halt (Read limit α) → Except Fault (Read limit α)
  | .error (.fault fault) => .error fault
  | .error (.atClose reason rest) => .error (.here reason (afterClosing rest (close rest)))
  | .ok read =>
    match closed : close read.rest with
    | .error fault => .error fault
    | .ok rest => .ok ⟨read.value, rest, Nat.lt_of_le_of_lt (bound closed) read.shorter⟩

/-! ### Records -/

/-- The values of named fields in the order of their names. -/
def gather (found : List (String × α)) :
    (names : List String) → Except String { values : List α // values.length = names.length }
  | [] => .ok ⟨[], rfl⟩
  | name :: names =>
    match found.lookup name, gather found names with
    | none, _ => .error name
    | some _, .error missing => .error missing
    | some value, .ok ⟨values, same⟩ => .ok ⟨value :: values, congrArg (· + 1) same⟩

/-- A record has a name of its own and a reader for each field. -/
structure RecordShape (α : Type) where
  name : String
  fields : List (String × Reader α)

namespace RecordShape

def names (shape : RecordShape α) : List String := shape.fields.map (·.1)

abbrev Values (shape : RecordShape α) := { values : List α // values.length = shape.names.length }

/-- The members of a record written as an object. A field that comes again is refused at its key. -/
def readMembers (shape : RecordShape α) (limit : Nat) (found : List (String × α)) (isFirst : Bool)
    (text : List Char) (bound : text.length < limit) : Except Halt (Read limit shape.Values) :=
  match readMember isFirst text with
  | .error fault => .error (.fault fault)
  | .ok (.closed rest le) =>
    match gather found shape.names with
    | .error missing => .error (.atClose (.missingField missing) rest)
    | .ok values => .ok ⟨values, rest, Nat.lt_of_le_of_lt le bound⟩
  | .ok (.key ⟨name, rest, shorter⟩) =>
    match shape.fields.lookup name with
    | none =>
      match readMemberValue skipValue rest with
      | .error fault => .error (.fault fault)
      | .ok ⟨_, after, less⟩ =>
        shape.readMembers limit found false after
          (Text.length_lt_trans_bound less shorter bound)
    | some reader =>
      if (found.lookup name).isSome then .error (.atClose (.repeatedField name) rest)
      else
        match readMemberValue reader rest with
        | .error fault => .error (.fault fault)
        | .ok ⟨value, after, less⟩ =>
          shape.readMembers limit ((name, value) :: found) false after
            (Text.length_lt_trans_bound less shorter bound)
termination_by text.length

/-- The next element of a list, if there is one. -/
def readElement (isFirst : Bool) (reader : Reader α) (text : List Char) :
    Except Fault (Except (List Char) (Read text.length α)) :=
  match skipSpace text, skipSpace_length_le text with
  | [], _ => .error (.next (.unfinished .list) [])
  | c :: rest, le =>
    if c = ']' then .ok (.error (c :: rest))
    else if isFirst then (reader (c :: rest)).map fun read => .ok (read.widen le)
    else if c = ',' then
      match skipSpace rest, skipSpace_length_le rest with
      | [], _ => .error (.next (.unfinished .value) [])
      | ']' :: after, _ => .error (.next .trailingComma (']' :: after))
      | other, less =>
        (reader other).map fun read => .ok (read.widen (Nat.le_trans less (Nat.le_of_lt le)))
    else .error (.next .expectedCommaOrBracket (c :: rest))

/-- The elements of a record written as a list. `index` elements of `total` have been read. -/
def readElements (name : String) (total limit index : Nat) :
    (fields : List (String × Reader α)) → (text : List Char) → text.length < limit →
      Except Halt (Read limit { values : List α // values.length = fields.length })
  | [], text, bound => .ok ⟨⟨[], rfl⟩, text, bound⟩
  | (_, reader) :: fields, text, bound =>
    match readElement (index = 0) reader text with
    | .error fault => .error (.fault fault)
    | .ok (.error rest) => .error (.atClose (.tooShort index name total) rest)
    | .ok (.ok ⟨value, rest, shorter⟩) =>
      match readElements name total limit (index + 1) fields rest (Nat.lt_trans shorter bound) with
      | .error halt => .error halt
      | .ok ⟨⟨values, same⟩, after, less⟩ =>
        .ok ⟨⟨value :: values, congrArg (· + 1) same⟩, after, less⟩

def read (shape : RecordShape α) : Reader shape.Values := fun text =>
  match skipSpace text, skipSpace_length_le text with
  | [], _ => .error (.next (.unfinished .value) [])
  | c :: rest, (short : rest.length < text.length) =>
    if c = '{' then
      finish closeObject closeObject_length_le (shape.readMembers text.length [] true rest short)
    else if c = '[' then do
      let ⟨⟨values, same⟩, after, less⟩ ← finish closeList closeList_length_le
        (readElements shape.name shape.fields.length text.length 0 shape.fields rest short)
      return ⟨⟨values, by rw [same, names, List.length_map]⟩, after, less⟩
    else .error (unexpected (.record shape.name) c rest)

end RecordShape

end ReqlLua.Json
