import ReqlLua.Failure
import ReqlLua.Proofs.Json.Literal
import ReqlLua.Proofs.Protocol.RoundTrip

/-! Documents that list whole numbers of any size under names that may come again. Such a document is
read only if nothing of it would be lost: no entry, and no digit of a number. -/

namespace ReqlLua

open Json

/-- The enumeration holds the entries of a list, each with its number, and nothing else. -/
structure Enumeration.Lists (enumeration : Enumeration) (entries : List (String × Literal)) :
    Prop where
  size : enumeration.size = entries.length
  listed : ∀ entry ∈ entries,
    ∃ tag, enumeration.get? entry.1 = some tag ∧ tag.toInt = entry.2.value
  others : ∀ name, name ∉ entries.map (·.1) → enumeration.get? name = none

namespace Definition

/-- No name comes again, and every number is that of a tag. -/
structure Listable (entries : List (String × Literal)) : Prop where
  distinct : (entries.map (·.1)).Nodup
  fits : ∀ entry ∈ entries, entry.2.Fits

instance (entries : List (String × Literal)) : Decidable (Listable entries) :=
  decidable_of_iff ((entries.map (·.1)).Nodup ∧ ∀ entry ∈ entries, entry.2.Fits)
    ⟨fun ⟨distinct, fits⟩ => ⟨distinct, fits⟩, fun listable => ⟨listable.distinct, listable.fits⟩⟩

/-- What is new to the tags read so far and one more is new to these, and so is the one. -/
theorem Listable.cons {name : String} {literal : Literal} {entries : List (String × Literal)}
    (listable : Listable entries) (fits : literal.Fits) {tags : Enumeration} {tag : Int64}
    (absent : tags.contains name = false)
    (fresh : ∀ entry ∈ entries, (tags.insert name tag).contains entry.1 = false) :
    Listable ((name, literal) :: entries) ∧
      ∀ entry ∈ (name, literal) :: entries, tags.contains entry.1 = false := by
  have apart : ∀ entry ∈ entries, entry.1 ≠ name ∧ tags.contains entry.1 = false := by
    intro entry member
    have new := fresh entry member
    rw [contains_insert, Bool.or_eq_false_iff] at new
    exact ⟨of_decide_eq_false new.1, new.2⟩
  have distant : name ∉ entries.map (·.1) := by
    intro again
    obtain ⟨entry, member, same⟩ := List.mem_map.1 again
    exact (apart entry member).1 same
  exact ⟨⟨List.nodup_cons.2 ⟨distant, listable.distinct⟩,
    List.forall_mem_cons.2 ⟨fits, listable.fits⟩⟩,
    List.forall_mem_cons.2 ⟨absent, fun entry member => (apart entry member).2⟩⟩

/-- The entries with the tags that their literals stand for. -/
def tagged (entries : List (String × Literal)) : List (String × Int64) :=
  entries.map fun entry => (entry.1, entry.2.word)

def enumerationOf (entries : List (String × Literal)) : Enumeration := .ofList (tagged entries)

theorem names_tagged (entries : List (String × Literal)) :
    (tagged entries).map (·.1) = entries.map (·.1) := by
  rw [tagged, List.map_map]
  rfl

theorem Listable.nodup_tagged {entries : List (String × Literal)} (listable : Listable entries) :
    ((tagged entries).map (·.1)).Nodup := by
  rw [names_tagged]
  exact listable.distinct

theorem lists_enumerationOf {entries : List (String × Literal)} (listable : Listable entries) :
    (enumerationOf entries).Lists entries := by
  have distinct := listable.nodup_tagged
  refine ⟨?_, ?_, ?_⟩
  · rw [enumerationOf, Dictionary.size_ofList distinct, tagged, List.length_map]
  · intro entry member
    have found : (entry.1, entry.2.word) ∈ tagged entries := List.mem_map.2 ⟨entry, member, rfl⟩
    exact ⟨_, (Dictionary.get?_ofList distinct).2 found, Literal.toInt_word (listable.fits entry member)⟩
  · intro name distant
    rw [← names_tagged] at distant
    exact Dictionary.get?_foldl_insert distant _

/-! ### Objects of tags -/

abbrev LiteralsText := ObjectText fun _ : String => LiteralText

theorem integerText_of_fits {literal : Literal} (fits : literal.Fits) {text : List Char}
    (written : LiteralText literal text) : IntegerText literal.word text := by
  obtain ⟨space, blank, rfl⟩ := written
  exact ⟨space, blank, by rw [Literal.text_of_fits fits]⟩

theorem readTagMembers_halts {isFirst : Bool} {entries : List (String × Literal)}
    {text : List Char} (members : Members (fun _ => LiteralText) isFirst entries text)
    {tags : Enumeration}
    (bad : ¬(Listable entries ∧ ∀ entry ∈ entries, tags.contains entry.1 = false)) (limit : Nat)
    (rest : List Char) (bound : (text ++ '}' :: rest).length < limit) :
    ∃ halt, readTagMembers limit tags isFirst (text ++ '}' :: rest) bound = .error halt := by
  -- A member that is new and fits leaves a fault in what follows: the tags read so far grow by it.
  induction members generalizing tags with
  | done =>
    have listable : Listable [] :=
      ⟨List.nodup_nil, fun _ member => absurd member List.not_mem_nil⟩
    exact (bad ⟨listable, fun _ member => absurd member List.not_mem_nil⟩).elim
  | @member isFirst lead spelling gap text others name literal entries leads spelled blank written
      later ih =>
    simp only [List.append_assoc, List.cons_append] at bound ⊢
    obtain ⟨shorter, key⟩ :=
      readMember_key leads spelled (gap ++ ':' :: (text ++ (others ++ '}' :: rest)))
    rw [readTagMembers, key]
    by_cases fits : literal.Fits
    · obtain ⟨less, member⟩ := readMemberValue_takes blank
        (readInteger_reads _ text (integerText_of_fits fits written) _ (later.ends rest))
      simp only [member]
      by_cases again : tags.contains name = true
      · exact ⟨_, if_pos again⟩
      rw [if_neg again]
      have bad' : ¬(Listable entries ∧
          ∀ entry ∈ entries, (tags.insert name literal.word).contains entry.1 = false) :=
        fun good => bad (good.1.cons fits (eq_false_of_ne_true again) good.2)
      exact ih bad' (Text.length_lt_trans_bound less shorter bound)
    · obtain ⟨fault, refused⟩ := readMemberValue_fails blank
        (readInteger_refuses fits written (later.ends rest))
      exact ⟨.fault fault, by simp only [refused]⟩

theorem tagsText_of_literals {entries : List (String × Literal)} (listable : Listable entries)
    {text : List Char} (written : LiteralsText entries text) :
    TagsText (enumerationOf entries) text := by
  refine ⟨tagged entries, ?_, listable.nodup_tagged, rfl⟩
  exact written.map fun entry member _ => integerText_of_fits (listable.fits entry member)

theorem readTags_judges : Judges readTags LiteralsText Listable where
  takes entries text written listable rest ends :=
    ⟨_, readTags_reads _ text (tagsText_of_literals listable written) rest ends⟩
  refuses := by
    rintro entries _ ⟨space, inside, blank, members, rfl⟩ bad rest -
    simp only [List.append_assoc, List.cons_append, List.nil_append]
    obtain ⟨bound, object⟩ := readTags_object blank (inside ++ '}' :: rest)
    obtain ⟨halt, halted⟩ := readTagMembers_halts members (fun good => bad good.1) _ rest bound
    obtain ⟨fault, finished⟩ := finish_halted closeObject closeObject_length_le halt
    refine ⟨fault, ?_⟩
    rw [object, halted, finished]

/-! ### Messages -/

/-- The text of a message with these entries in this order. -/
def LiteralMessage (field : String) (entries : List (String × Literal)) (text : List Char) : Prop :=
  ObjectText (fun name value text => name = field ∧ LiteralsText value text) [(field, entries)] text

theorem messageText_of_literals {field : String} {entries : List (String × Literal)}
    (listable : Listable entries) {text : List Char} (written : LiteralMessage field entries text) :
    MessageText field (enumerationOf entries) text := by
  apply written.map
  intro entry member text written
  cases List.mem_singleton.1 member
  exact ⟨written.1, tagsText_of_literals listable written.2⟩

theorem readMessage_judges (name field : String) :
    Judges (readMessage name field) (LiteralMessage field) Listable where
  takes entries text written listable rest ends :=
    ⟨_, readMessage_reads name field _ text (messageText_of_literals listable written) rest ends⟩
  refuses := by
    rintro entries _ ⟨space, inside, blank, members, rfl⟩ bad rest -
    simp only [List.append_assoc, List.cons_append, List.nil_append]
    have known : ∀ other, (∃ value text, other = field ∧ LiteralsText value text) →
        ∃ reader, (message name field).fields.lookup other = some reader ∧
          Judges reader (fun value text => other = field ∧ LiteralsText value text) Listable := by
      rintro other ⟨_, _, rfl, _⟩
      refine ⟨readTags, by rw [message, List.lookup_cons, beq_self_eq_true], ?_, ?_⟩
      · exact fun value text written => readTags_judges.takes value text written.2
      · exact fun value text written => readTags_judges.refuses value text written.2
    have bad' : ¬∀ entry ∈ [(field, entries)], Listable entry.2 := fun all =>
      bad (all _ List.mem_cons_self)
    obtain ⟨fault, refused⟩ := RecordShape.read_fails known members bad' blank rest
    refine ⟨fault, ?_⟩
    unfold readMessage
    rw [refused]
    rfl

/-! ### Definitions -/

/-- The text of a field of a document, a message with a name that goes with it. -/
def LiteralField (name : String) (entries : List (String × Literal)) (text : List Char) : Prop :=
  name ∈ messageNames ∧ LiteralMessage (name ++ "Type") entries text

/-- The text of a document that lists these entries, its fields in any order and space around it. -/
def LiteralDocument (query response term : List (String × Literal)) (text : List Char) : Prop :=
  ∃ fields body space, fields.Perm (fieldsOf query response term) ∧
    ObjectText LiteralField fields body ∧ Blank space ∧ text = body ++ space

theorem forall_fields {α : Type} {query response term : α} {fields : List (String × α)}
    (order : fields.Perm (fieldsOf query response term)) {P : α → Prop} :
    (∀ field ∈ fields, P field.2) ↔ P query ∧ P response ∧ P term := by
  constructor
  · intro all
    have all' : ∀ field ∈ fieldsOf query response term, P field.2 := fun field member =>
      all field (order.mem_iff.2 member)
    simpa [fieldsOf] using all'
  · intro all field member
    have among := order.mem_iff.1 member
    simp only [fieldsOf, List.mem_cons, List.not_mem_nil, or_false] at among
    rcases among with rfl | rfl | rfl
    · exact all.1
    · exact all.2.1
    · exact all.2.2

variable {query response term : List (String × Literal)} {source : String}

theorem ofJson_listable (written : LiteralDocument query response term source.toList)
    (listable : Listable query ∧ Listable response ∧ Listable term) :
    ofJson source =
      .ok ⟨enumerationOf query, enumerationOf response, enumerationOf term⟩ := by
  obtain ⟨fields, body, space, order, object, blank, text⟩ := written
  have all := (forall_fields order).2 listable
  let definition : Definition :=
    ⟨enumerationOf query, enumerationOf response, enumerationOf term⟩
  have written : DefinitionText definition body := by
    refine ⟨_, order.map fun field => (field.1, enumerationOf field.2), object.map ?_⟩
    exact fun field member text written =>
      ⟨written.1, messageText_of_literals (all field member) written.2⟩
  rw [ofJson, text, read_layout (definitionLayout_of_text written) blank]
  rfl

theorem ofJson_unlistable (written : LiteralDocument query response term source.toList)
    (unlistable : ¬(Listable query ∧ Listable response ∧ Listable term)) :
    ∃ complaint, ofJson source = .error complaint := by
  obtain ⟨fields, _, space, order, ⟨before, inside, blank, members, rfl⟩, -, text⟩ := written
  have known : ∀ name, (∃ value text, LiteralField name value text) →
      ∃ reader, shape.fields.lookup name = some reader ∧
        Judges reader (LiteralField name) Listable := by
    rintro name ⟨_, _, listed, _⟩
    have judges := readMessage_judges (name ++ "Message") (name ++ "Type")
    refine ⟨_, lookup_messageNames name listed, ?_, ?_⟩
    · exact fun value text written => judges.takes value text written.2
    · exact fun value text written => judges.refuses value text written.2
  have bad : ¬∀ field ∈ fields, Listable field.2 := fun all => unlistable ((forall_fields order).1 all)
  obtain ⟨fault, refused⟩ := RecordShape.read_fails known members bad blank space
  refine ⟨fault.complaint source.toList, ?_⟩
  simp only [List.append_assoc, List.cons_append, List.nil_append] at text
  rw [ofJson, text, Definition.read, refused]
  rfl

/-- A document is read exactly if in each of its lists every name stands once and every literal is that of
a tag. What is read holds the entries of the lists, each with the number that is written, and no others. -/
theorem ofJson_lists_iff (written : LiteralDocument query response term source.toList) :
    ((∃ definition, ofJson source = .ok definition) ↔
      Listable query ∧ Listable response ∧ Listable term) ∧
    (∀ definition, ofJson source = .ok definition →
      definition.query.Lists query ∧ definition.response.Lists response ∧
        definition.term.Lists term) ∧
    (¬(Listable query ∧ Listable response ∧ Listable term) →
      ∃ complaint, (ofJson source).mapError (Failure.document none) =
        .error (.document none complaint)) := by
  by_cases listable : Listable query ∧ Listable response ∧ Listable term
  · have read := ofJson_listable written listable
    refine ⟨⟨fun _ => listable, fun _ => ⟨_, read⟩⟩, ?_, fun unlistable => (unlistable listable).elim⟩
    intro definition read'
    rw [read] at read'
    cases read'
    exact ⟨lists_enumerationOf listable.1, lists_enumerationOf listable.2.1,
      lists_enumerationOf listable.2.2⟩
  · obtain ⟨complaint, refused⟩ := ofJson_unlistable written listable
    have unread : ∀ definition, ofJson source ≠ .ok definition := by
      intro definition read
      rw [refused] at read
      cases read
    refine ⟨⟨?_, fun all => (listable all).elim⟩, ?_, ?_⟩
    · rintro ⟨definition, read⟩
      exact (unread definition read).elim
    · exact fun definition read => (unread definition read).elim
    · exact fun _ => ⟨complaint, by rw [refused]; rfl⟩

/-! ### Written documents -/

/-- The document around three texts of objects. -/
def documentOf (query response term : String) : String :=
  objectJson ((fieldsOf query response term).map fun field =>
    memberJson field.1 (objectJson [memberJson (field.1 ++ "Type") field.2]))

theorem literalDocument_documentOf {queryText responseText termText : String}
    (queryWritten : LiteralsText query queryText.toList)
    (responseWritten : LiteralsText response responseText.toList)
    (termWritten : LiteralsText term termText.toList) :
    LiteralDocument query response term (documentOf queryText responseText termText).toList := by
  let fields := fieldsOf (query, queryText) (response, responseText) (term, termText)
  have written : ∀ field ∈ fields, LiteralsText field.2.1 field.2.2.toList :=
    (forall_fields (P := fun value => LiteralsText value.1 value.2.toList) (.refl fields)).2
      ⟨queryWritten, responseWritten, termWritten⟩
  have messages : ∀ field ∈ fields, LiteralField field.1 field.2.1
      (objectJson [memberJson (field.1 ++ "Type") field.2.2]).toList := by
    intro field member
    refine ⟨List.mem_map_of_mem (f := Prod.fst) member,
      objectText_objectJson (fun _ => field.2.2) fun entry only => ?_⟩
    cases List.mem_singleton.1 only
    exact ⟨rfl, written field member⟩
  have same : documentOf queryText responseText termText = objectJson (fields.map fun field =>
      memberJson field.1 (objectJson [memberJson (field.1 ++ "Type") field.2.2])) := by
    simp only [documentOf, fields, fieldsOf, List.map_cons, List.map_nil]
  have object : ObjectText (fun name value => LiteralField name (Prod.fst value)) fields
      (documentOf queryText responseText termText).toList := by
    rw [same]
    exact objectText_objectJson _ messages
  have lists : ObjectText LiteralField (fields.map fun field => (field.1, Prod.fst field.2))
      (documentOf queryText responseText termText).toList := object.map fun _ _ _ inside => inside
  exact ⟨_, _, [], .refl _, lists, blank_nil, (List.append_nil _).symm⟩

theorem literalsText_empty : LiteralsText [] "\x7b\x7d".toList :=
  ⟨[], [], blank_nil, .done blank_nil, rfl⟩

/-- A name that comes again in another spelling. -/
def twiceSpelled : String := "\x7b\"A\":1,\"\\u0041\":2\x7d"

theorem literalsText_twiceSpelled :
    LiteralsText [("A", ⟨false, 1⟩), ("A", ⟨false, 2⟩)] twiceSpelled.toList := by
  have plain : Spells 'A' ['A'] := .plain (by decide) (by decide) (by decide)
  have unit : hexUnit? '0' '0' '4' '1' = some 0x41 := by decide
  have escaped : Spells 'A' ['\\', 'u', '0', '0', '4', '1'] := .unit unit (by decide) (by decide)
  have second : Members (fun _ => LiteralText) false [("A", ⟨false, 2⟩)] _ :=
    .member (.next blank_nil blank_nil) (.cons escaped .nil) blank_nil ⟨[], blank_nil, rfl⟩
      (.done blank_nil)
  exact ⟨[], _, blank_nil, .member (.first blank_nil) (.cons plain .nil) blank_nil
    ⟨[], blank_nil, rfl⟩ second, by decide⟩

/-- The least tag, with space around it. -/
def leastTag : String := "\x7b \"B\" : -9223372036854775808 \x7d"

theorem literalsText_leastTag :
    LiteralsText [("B", ⟨true, 9223372036854775808⟩)] leastTag.toList := by
  have plain : Spells 'B' ['B'] := .plain (by decide) (by decide) (by decide)
  have space : Blank [' '] := blank_single rfl
  exact ⟨[], _, blank_nil, .member (.first space) (.cons plain .nil) space ⟨[' '], space, rfl⟩
    (.done space), by decide⟩

/-- The least tag is read; a name in two spellings makes a document unreadable. -/
theorem ofJson_lists_iff_twiceSpelled :
    let least := documentOf "\x7b\x7d" "\x7b\x7d" leastTag
    let twice := documentOf twiceSpelled "\x7b\x7d" "\x7b\x7d"
    LiteralDocument [] [] [("B", ⟨true, 9223372036854775808⟩)] least.toList ∧
      (∃ definition, ofJson least = .ok definition ∧
        definition.term.get? "B" = some Int64.minValue ∧ definition.term.size = 1) ∧
      LiteralDocument [("A", ⟨false, 1⟩), ("A", ⟨false, 2⟩)] [] [] twice.toList ∧
      ∃ complaint, (ofJson twice).mapError (Failure.document none) =
        .error (.document none complaint) := by
  intro least twice
  have written : LiteralDocument [] [] [("B", ⟨true, 9223372036854775808⟩)] least.toList :=
    literalDocument_documentOf literalsText_empty literalsText_empty literalsText_leastTag
  have written' : LiteralDocument [("A", ⟨false, 1⟩), ("A", ⟨false, 2⟩)] [] [] twice.toList :=
    literalDocument_documentOf literalsText_twiceSpelled literalsText_empty literalsText_empty
  obtain ⟨succeeds, lists, -⟩ := ofJson_lists_iff written
  obtain ⟨definition, read⟩ := succeeds.2 (by decide)
  obtain ⟨-, -, size, listed, -⟩ := lists definition read
  obtain ⟨tag, found, value⟩ := listed _ List.mem_cons_self
  have least : tag = Int64.minValue := Int64.toInt_inj.1 value
  refine ⟨written, ⟨definition, read, least ▸ found, size⟩, written', ?_⟩
  exact (ofJson_lists_iff written').2.2 (by decide)

end Definition

end ReqlLua
