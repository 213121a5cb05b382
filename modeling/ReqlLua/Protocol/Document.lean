import ReqlLua.Json.Record
import ReqlLua.Protocol.Definition

/-! The JSON document of a protocol definition: three records around three objects of tags. -/

namespace ReqlLua.Definition

open Json
open Text (Read)

/-- The members of an object of tags. An identifier that comes again is refused behind its tag. -/
def readTagMembers (limit : Nat) (tags : Enumeration) (isFirst : Bool) (text : List Char)
    (bound : text.length < limit) : Except Halt (Read limit Enumeration) :=
  match readMember isFirst text with
  | .error fault => .error (.fault fault)
  | .ok (.closed rest le) => .ok ⟨tags, rest, Nat.lt_of_le_of_lt le bound⟩
  | .ok (.key ⟨name, rest, shorter⟩) =>
    match readMemberValue readInteger rest with
    | .error fault => .error (.fault fault)
    | .ok ⟨tag, after, less⟩ =>
      if tags.contains name then .error (.atClose (.repeatedIdentifier name) after)
      else
        readTagMembers limit (tags.insert name tag) false after
          (Text.length_lt_trans_bound less shorter bound)
termination_by text.length

def readTags : Reader Enumeration := fun text =>
  match skipSpace text, skipSpace_length_le text with
  | [], _ => .error (.next (.unfinished .value) [])
  | c :: rest, (short : rest.length < text.length) =>
    if c = '{' then
      finish closeObject closeObject_length_le (readTagMembers text.length .empty true rest short)
    else .error (unexpected .tags c rest)

/-- A message is a record of one field, the enumeration of its types. -/
def message (name field : String) : RecordShape Enumeration := ⟨name, [(field, readTags)]⟩

def readMessage (name field : String) : Reader Enumeration := fun text => do
  let read ← (message name field).read text
  have nonempty : 0 < read.value.1.length := by
    rw [read.value.2]; simp [message, RecordShape.names]
  return ⟨read.value.1[0], read.rest, read.shorter⟩

def shape : RecordShape Enumeration :=
  ⟨"ProtocolDef",
    [("Query", readMessage "QueryMessage" "QueryType"),
     ("Response", readMessage "ResponseMessage" "ResponseType"),
     ("Term", readMessage "TermMessage" "TermType")]⟩

/-- The definition that a text spells, with nothing but space around it. -/
def read (text : List Char) : Except Fault Definition := do
  let read ← shape.read text
  have three : read.value.1.length = 3 := by rw [read.value.2]; simp [shape, RecordShape.names]
  match skipSpace read.rest with
  | [] => return ⟨read.value.1[0], read.value.1[1], read.value.1[2]⟩
  | other => .error (.next .trailingCharacters other)

/-- The definition or what is wrong with the document. -/
def ofJson (source : String) : Except Complaint Definition :=
  (read source.toList).mapError (·.complaint source.toList)

/-! ### Writing -/

def memberJson (key value : String) : String := Json.quoted key ++ ":" ++ value

def objectJson (members : List String) : String :=
  "\x7b" ++ ",".intercalate members ++ "\x7d"

def tagsJson (tags : Enumeration) : String :=
  objectJson (tags.entries.map fun entry => memberJson entry.1 (toString entry.2.toInt))

/-- The document without any space, identifiers in order. -/
def json (definition : Definition) : String :=
  objectJson
    [memberJson "Query" (objectJson [memberJson "QueryType" (tagsJson definition.query)]),
     memberJson "Response" (objectJson [memberJson "ResponseType" (tagsJson definition.response)]),
     memberJson "Term" (objectJson [memberJson "TermType" (tagsJson definition.term)])]

end ReqlLua.Definition
