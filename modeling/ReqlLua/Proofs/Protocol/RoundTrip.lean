import Mathlib.Data.List.TakeWhile
import ReqlLua.Proofs.Dictionary
import ReqlLua.Proofs.Json.Records
import ReqlLua.Protocol.Document

/-! Definitions are read back from the documents that are written for them. -/

namespace ReqlLua

namespace Json

variable {α : Type}

/-- The text of an object with these entries. -/
def ObjectText (Value : String → α → List Char → Prop) (entries : List (String × α))
    (text : List Char) : Prop :=
  ∃ space inside, Blank space ∧ Members Value true entries inside ∧
    text = space ++ '{' :: (inside ++ ['}'])

theorem ObjectText.map {β : Type} {Value : String → α → List Char → Prop}
    {Value' : String → β → List Char → Prop} {entries : List (String × α)} {text : List Char}
    (written : ObjectText Value entries text) {other : α → β}
    (taken : ∀ entry ∈ entries, ∀ text,
      Value entry.1 entry.2 text → Value' entry.1 (other entry.2) text) :
    ObjectText Value' (entries.map fun entry => (entry.1, other entry.2)) text := by
  obtain ⟨space, inside, blank, members, same⟩ := written
  exact ⟨space, inside, blank, members.map taken, same⟩

/-- A record may be written as an object of its fields alone, in any order. -/
theorem RecordText.of_object {Value Value' : String → α → List Char → Prop}
    {entries fields : List (String × α)} {text : List Char} (written : ObjectText Value entries text)
    (order : entries.Perm fields)
    (taken : ∀ name value text, Value name value text →
      name ∈ fields.map (·.1) ∧ Value' name value text) : RecordText Value' fields text := by
  obtain ⟨space, inside, blank, members, rfl⟩ := written
  have members' : Members (FieldText (fields.map (·.1)) Value') true
      (entries.map fun entry => (entry.1, some entry.2)) inside :=
    members.map fun entry _ => taken entry.1 entry.2
  refine .object blank members' ?_
  have all : counted (entries.map fun entry => (entry.1, some entry.2)) = entries := by
    rw [counted, List.filterMap_map]
    exact List.filterMap_some
  rwa [all]

def IntegerText (value : Int64) (text : List Char) : Prop :=
  ∃ space, Blank space ∧ text = space ++ (toString value.toInt).toList

theorem readInteger_reads : Reads readInteger IntegerText := by
  rintro value _ ⟨space, blank, rfl⟩ rest ends
  rw [List.append_assoc]
  exact readInteger_toString blank value ends

end Json

namespace Definition

open Json

/-! ### Objects of tags -/

abbrev TagMembers := Members fun _ => IntegerText

theorem contains_insert (tags : Enumeration) (name other : String) (tag : Int64) :
    (tags.insert name tag).contains other = (decide (other = name) || tags.contains other) := by
  rw [Dictionary.contains, Dictionary.get?_insert]
  by_cases same : other = name
  · simp only [same, if_true, Option.isSome_some, decide_true, Bool.true_or]
  · simp only [same, if_false, decide_false, Bool.false_or]
    rfl

theorem readTagMembers_members {isFirst : Bool} {entries : List (String × Int64)}
    {text : List Char} (members : TagMembers isFirst entries text) {tags : Enumeration}
    (fresh : ∀ entry ∈ entries, tags.contains entry.1 = false)
    (distinct : (entries.map (·.1)).Nodup) (limit : Nat) (rest : List Char)
    (bound : (text ++ '}' :: rest).length < limit) :
    ∃ shorter, readTagMembers limit tags isFirst (text ++ '}' :: rest) bound =
      .ok ⟨entries.foldl (fun tags entry => tags.insert entry.1 entry.2) tags, '}' :: rest,
        shorter⟩ := by
  induction members generalizing tags with
  | done blank =>
    obtain ⟨le, done⟩ := readMember_done _ blank rest
    refine ⟨Nat.lt_of_le_of_lt le bound, ?_⟩
    rw [readTagMembers, done]
    rfl
  | @member isFirst lead spelling gap text others name tag entries leads spelled blank written
      later ih =>
    obtain ⟨distant, distinct⟩ := List.nodup_cons.1 distinct
    have absent : tags.contains name = false := fresh (name, tag) List.mem_cons_self
    have fresh' : ∀ entry ∈ entries, (tags.insert name tag).contains entry.1 = false := by
      intro entry member
      have differ : entry.1 ≠ name := fun same =>
        distant (List.mem_map.2 ⟨entry, member, same⟩)
      rw [contains_insert, decide_eq_false differ, fresh entry (List.mem_cons_of_mem _ member)]
      rfl
    simp only [List.append_assoc, List.cons_append] at bound ⊢
    obtain ⟨shorter, key⟩ :=
      readMember_key leads spelled (gap ++ ':' :: (text ++ (others ++ '}' :: rest)))
    obtain ⟨less, member⟩ := readMemberValue_takes blank
      (readInteger_reads tag text written _ (later.ends rest))
    have bound' : (others ++ '}' :: rest).length < limit :=
      Text.length_lt_trans_bound less shorter bound
    obtain ⟨short, done⟩ := ih fresh' distinct bound'
    refine ⟨short, ?_⟩
    rw [readTagMembers, key]
    simp only [member, absent, Bool.false_eq_true, if_false, done, List.foldl_cons]

/-- The text of an object with the entries of the enumeration in any order. -/
def TagsText (tags : Enumeration) (text : List Char) : Prop :=
  ∃ entries, ObjectText (fun _ => IntegerText) entries text ∧ (entries.map (·.1)).Nodup ∧
    Dictionary.ofList entries = tags

theorem readTags_object {space : List Char} (blank : Blank space) (text : List Char) :
    ∃ bound, readTags (space ++ '{' :: text) = finish closeObject closeObject_length_le
      (readTagMembers (space ++ '{' :: text).length .empty true text bound) := by
  have skipped := skipSpace_blank blank (by decide : isSpace '{' = false) text
  refine ⟨by simp only [List.length_append, List.length_cons]; omega, ?_⟩
  unfold readTags
  split
  · next empty _ =>
    rw [skipped] at empty
    cases empty
  · next same _ =>
    rw [skipped] at same
    cases same
    rw [if_pos rfl]

theorem readTags_reads : Reads readTags TagsText := by
  rintro _ _ ⟨entries, ⟨space, inside, blank, members, rfl⟩, distinct, rfl⟩ rest -
  simp only [List.append_assoc, List.cons_append, List.nil_append]
  obtain ⟨bound, object⟩ := readTags_object blank (inside ++ '}' :: rest)
  have fresh : ∀ entry ∈ entries, (Dictionary.empty : Enumeration).contains entry.1 = false :=
    fun _ _ => rfl
  obtain ⟨shorter, read⟩ := readTagMembers_members members fresh distinct _ rest bound
  obtain ⟨shorter', closed⟩ := finish_close shorter
  refine ⟨shorter', ?_⟩
  rw [object, read, closed]
  rfl

/-! ### Messages -/

/-- The text of a record with one field, whatever its layout. -/
def MessageLayout (field : String) (tags : Enumeration) (text : List Char) : Prop :=
  RecordText (fun _ => TagsText) [(field, tags)] text

theorem readMessage_layout (name field : String) :
    Reads (readMessage name field) (MessageLayout field) := by
  intro tags text written rest _
  have names : (message name field).names = [(field, tags)].map (·.1) := rfl
  have distinct : (message name field).names.Nodup := List.pairwise_singleton _ field
  have reads : ∀ entry ∈ (message name field).fields, Reads entry.2 TagsText := by
    intro entry member
    cases List.mem_singleton.1 member
    exact readTags_reads
  obtain ⟨same, shorter, read⟩ := RecordShape.read_record names distinct reads written rest
  refine ⟨shorter, ?_⟩
  unfold readMessage
  rw [read]
  rfl

/-- The text of an object of one field. -/
def MessageText (field : String) (tags : Enumeration) (text : List Char) : Prop :=
  ObjectText (fun name value text => name = field ∧ TagsText value text) [(field, tags)] text

theorem messageLayout_of_text {field : String} {tags : Enumeration} {text : List Char}
    (written : MessageText field tags text) : MessageLayout field tags text := by
  refine .of_object written (.refl _) ?_
  rintro other value text ⟨rfl, tagsText⟩
  exact ⟨List.mem_cons_self, tagsText⟩

theorem readMessage_reads (name field : String) :
    Reads (readMessage name field) (MessageText field) := fun tags text written =>
  readMessage_layout name field tags text (messageLayout_of_text written)

/-! ### Definitions -/

def messageNames : List String := ["Query", "Response", "Term"]

theorem lookup_messageNames :
    ∀ name ∈ messageNames,
      shape.fields.lookup name = some (readMessage (name ++ "Message") (name ++ "Type")) := by
  intro name member
  simp only [messageNames, List.mem_cons, List.not_mem_nil, or_false] at member
  rcases member with rfl | rfl | rfl <;> rfl

/-- The fields of a definition in order. -/
def fieldsOf {α : Type} (query response term : α) : List (String × α) :=
  [("Query", query), ("Response", response), ("Term", term)]

/-- The text of a definition, whatever its layout. -/
def DefinitionLayout (definition : Definition) (text : List Char) : Prop :=
  RecordText (fun name => MessageLayout (name ++ "Type"))
    (fieldsOf definition.query definition.response definition.term) text

theorem shape_layout {definition : Definition} {text : List Char}
    (written : DefinitionLayout definition text) (rest : List Char) :
    Takes shape.read (text ++ rest)
      ⟨[definition.query, definition.response, definition.term], rfl⟩ rest := by
  have reads : ∀ field ∈ shape.fields, Reads field.2 (MessageLayout (field.1 ++ "Type")) := by
    intro field member
    simp only [shape, List.mem_cons, List.not_mem_nil, or_false] at member
    rcases member with rfl | rfl | rfl
    · exact readMessage_layout _ "QueryType"
    · exact readMessage_layout _ "ResponseType"
    · exact readMessage_layout _ "TermType"
  have distinct : shape.names.Nodup := by decide
  obtain ⟨_, taken⟩ := RecordShape.read_record rfl distinct reads written rest
  exact taken

/-- The text of a definition as an object with its fields in any order. -/
def DefinitionText (definition : Definition) (text : List Char) : Prop :=
  ∃ fields, fields.Perm (fieldsOf definition.query definition.response definition.term) ∧
    ObjectText (fun name value text =>
      name ∈ messageNames ∧ MessageText (name ++ "Type") value text) fields text

theorem definitionLayout_of_text {definition : Definition} {text : List Char}
    (written : DefinitionText definition text) : DefinitionLayout definition text := by
  obtain ⟨fields, order, object⟩ := written
  refine .of_object object order ?_
  rintro name value text ⟨listed, message⟩
  exact ⟨listed, messageLayout_of_text message⟩

theorem skipSpace_all {space : List Char} (blank : Blank space) : skipSpace space = [] := by
  rw [skipSpace, List.dropWhile_eq_nil_iff]
  exact blank

theorem read_layout {definition : Definition} {text space : List Char}
    (written : DefinitionLayout definition text) (blank : Blank space) :
    read (text ++ space) = .ok definition := by
  obtain ⟨shorter, fields⟩ := shape_layout written space
  unfold read
  rw [fields]
  simp only [bind, Except.bind, skipSpace_all blank]
  rfl

theorem read_written {definition : Definition} {text : List Char}
    (written : DefinitionText definition text) : read text = .ok definition := by
  have taken := read_layout (definitionLayout_of_text written) blank_nil
  rwa [List.append_nil] at taken

/-! ### Documents that list their entries -/

/-- The text of a message with these entries in this order. -/
def ListedMessage (field : String) (entries : List (String × Int64)) (text : List Char) : Prop :=
  ObjectText (fun name value text => name = field ∧ ObjectText (fun _ => IntegerText) value text)
    [(field, entries)] text

/-- The text of a definition with the entries of each enumeration in this order. -/
def ListedText (query response term : List (String × Int64)) (text : List Char) : Prop :=
  ∃ fields, fields.Perm (fieldsOf query response term) ∧
    ObjectText (fun name value text =>
      name ∈ messageNames ∧ ListedMessage (name ++ "Type") value text) fields text

variable {query response term : List (String × Int64)} {text : List Char}

theorem messageText_of_listed {field : String} {entries : List (String × Int64)}
    (distinct : (entries.map (·.1)).Nodup) (listed : ListedMessage field entries text) :
    MessageText field (.ofList entries) text := by
  apply listed.map
  intro entry member text written
  cases List.mem_singleton.1 member
  exact ⟨written.1, entries, written.2, distinct, rfl⟩

theorem definitionText_of_listed (distinctQuery : (query.map (·.1)).Nodup)
    (distinctResponse : (response.map (·.1)).Nodup) (distinctTerm : (term.map (·.1)).Nodup)
    (listed : ListedText query response term text) :
    DefinitionText ⟨.ofList query, .ofList response, .ofList term⟩ text := by
  obtain ⟨fields, order, written⟩ := listed
  have distinct : ∀ field ∈ fields, (field.2.map (·.1)).Nodup := by
    intro field member
    have among := order.mem_iff.1 member
    simp only [fieldsOf, List.mem_cons, List.not_mem_nil, or_false] at among
    rcases among with rfl | rfl | rfl
    · exact distinctQuery
    · exact distinctResponse
    · exact distinctTerm
  refine ⟨_, order.map fun field => (field.1, Dictionary.ofList field.2), written.map ?_⟩
  exact fun field member text written =>
    ⟨written.1, messageText_of_listed (distinct field member) written.2⟩

/-! ### Written definitions -/

variable {α : Type}

theorem memberJson_toList (key value : String) :
    (memberJson key value).toList =
      '"' :: (key.toList.flatMap escape ++ '"' :: ':' :: value.toList) := by
  simp only [memberJson, Json.quoted, String.toList_append, String.toList_ofList]
  simp

/-- The members that stand behind another. -/
theorem members_written {Value : String → α → List Char → Prop} {write : String × α → String}
    {entries : List (String × α)}
    (written : ∀ entry ∈ entries, Value entry.1 entry.2 (write entry).toList) :
    Members Value false entries
      (entries.flatMap fun entry => ',' :: (memberJson entry.1 (write entry)).toList) := by
  induction entries with
  | nil => exact .done blank_nil
  | cons entry entries ih =>
    have later := ih fun other member => written other (List.mem_cons_of_mem _ member)
    have member := Members.member (Lead.next blank_nil blank_nil)
      (spelled_escaped entry.1.toList) blank_nil (written entry List.mem_cons_self) later
    simpa [memberJson_toList] using member

/-- Joining puts a separator before each text but the first. -/
theorem intercalate_cons_flatMap (separator first : List α) (later : List (List α)) :
    separator.intercalate (first :: later) = first ++ later.flatMap (separator ++ ·) := by
  induction later generalizing first with
  | nil => rw [List.intercalate_singleton, List.flatMap_nil, List.append_nil]
  | cons next others ih =>
    rw [List.intercalate_cons_cons, ih, List.flatMap_cons, List.append_assoc, List.append_assoc]

theorem objectText_objectJson {Value : String → α → List Char → Prop}
    (write : String × α → String) {entries : List (String × α)}
    (written : ∀ entry ∈ entries, Value entry.1 entry.2 (write entry).toList) :
    ObjectText Value entries
      (objectJson (entries.map fun entry => memberJson entry.1 (write entry))).toList := by
  have braces (members : List String) : (objectJson members).toList =
      [] ++ '{' :: ([','].intercalate (members.map String.toList) ++ ['}']) := by
    simp only [objectJson, String.toList_append, String.toList_intercalate]
    rfl
  refine ⟨[], _, blank_nil, ?_, braces _⟩
  cases entries with
  | nil => exact .done blank_nil
  | cons entry entries =>
    have later := members_written fun other member => written other (List.mem_cons_of_mem _ member)
    have member := Members.member (Lead.first blank_nil) (spelled_escaped entry.1.toList) blank_nil
      (written entry List.mem_cons_self) later
    rw [List.map_cons, List.map_cons, intercalate_cons_flatMap, List.flatMap_map, List.flatMap_map,
      memberJson_toList]
    simpa using member

def entriesJson (entries : List (String × Int64)) : String :=
  objectJson (entries.map fun entry => memberJson entry.1 (toString entry.2.toInt))

/-- The document without any space that lists the entries in this order. -/
def listedJson (query response term : List (String × Int64)) : String :=
  objectJson ((fieldsOf query response term).map fun field =>
    memberJson field.1 (objectJson [memberJson (field.1 ++ "Type") (entriesJson field.2)]))

theorem listedMessage_written (field : String) (entries : List (String × Int64)) :
    ListedMessage field entries (objectJson [memberJson field (entriesJson entries)]).toList :=
  objectText_objectJson (fun message => entriesJson message.2) fun message member => by
    cases List.mem_singleton.1 member
    exact ⟨rfl, objectText_objectJson _ fun entry _ => ⟨[], blank_nil, rfl⟩⟩

theorem listedText_listedJson (query response term : List (String × Int64)) :
    ListedText query response term (listedJson query response term).toList := by
  refine ⟨_, .refl _, objectText_objectJson _ ?_⟩
  intro field member
  have named : field.1 ∈ messageNames := List.mem_map_of_mem (f := Prod.fst) member
  exact ⟨named, listedMessage_written _ _⟩

theorem definitionText_json (definition : Definition) :
    DefinitionText definition definition.json.toList := by
  have listed := definitionText_of_listed (Dictionary.nodup_of_sorted definition.query.sorted)
    (Dictionary.nodup_of_sorted definition.response.sorted)
    (Dictionary.nodup_of_sorted definition.term.sorted) (listedText_listedJson _ _ _)
  rwa [Dictionary.ofList_entries, Dictionary.ofList_entries, Dictionary.ofList_entries] at listed

theorem ofJson_of_written {definition : Definition} {text : String}
    (written : DefinitionText definition text.toList) : ofJson text = .ok definition := by
  rw [ofJson, read_written written]
  rfl

/-- A definition is read back from its document. -/
theorem ofJson_json (definition : Definition) : ofJson definition.json = .ok definition := by
  rw [ofJson, read_written (definitionText_json definition)]
  rfl

end Definition

end ReqlLua
