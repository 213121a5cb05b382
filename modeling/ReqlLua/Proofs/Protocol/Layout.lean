import ReqlLua.Proofs.Protocol.RoundTrip

/-! The layout of a document does not matter: where it has space, in which order its fields and entries stand,
which other fields there are, and which of its records are written as lists. -/

namespace ReqlLua.Definition

open Json

/-- The text of a document: a definition in any layout with nothing but space around it. The document and
each message are objects, their fields in any order among others of any value, or lists of their fields; the
entries of an enumeration are in any order; and there may be space between any two tokens. -/
def IsDocument (definition : Definition) (text : List Char) : Prop :=
  ∃ body space, DefinitionLayout definition body ∧ Blank space ∧ text = body ++ space

theorem isDocument_json (definition : Definition) :
    IsDocument definition definition.json.toList :=
  ⟨_, [], definitionLayout_of_text (definitionText_json definition), blank_nil,
    (List.append_nil _).symm⟩

/-- A definition is read from all of its documents, among them the one that is written for it. -/
theorem ofJson_documents (definition : Definition) :
    IsDocument definition definition.json.toList ∧
      ∀ source : String, IsDocument definition source.toList → ofJson source = .ok definition := by
  refine ⟨isDocument_json definition, ?_⟩
  rintro source ⟨body, space, written, blank, text⟩
  rw [ofJson, text, read_layout written blank]
  rfl

/-- Two tags of terms and nothing else. -/
def twoTerms : Definition := ⟨.empty, .empty, .ofList [("A", 1), ("B", -2)]⟩

theorem tagsText_empty : TagsText .empty ['{', '}'] :=
  ⟨[], ⟨[], [], blank_nil, .done blank_nil, rfl⟩, List.nodup_nil, rfl⟩

theorem tagsText_twoTerms : TagsText twoTerms.term "\x7b\"B\" : -2,\"A\":1\x7d".toList := by
  have space : Blank [' '] := blank_single rfl
  have second : Members (fun _ => IntegerText) false [("A", 1)] _ :=
    .member (.next blank_nil blank_nil) (spelled_escaped _) blank_nil ⟨[], blank_nil, rfl⟩
      (.done blank_nil)
  have members : Members (fun _ => IntegerText) true [("B", -2), ("A", 1)] _ :=
    .member (.first blank_nil) (spelled_escaped _) space ⟨[' '], space, rfl⟩ second
  exact ⟨_, ⟨[], _, blank_nil, members, by decide⟩, by decide, by decide⟩

/-- A message may be written as a list of its enumeration. -/
theorem messageLayout_list (field : String) {tags : Enumeration} {text : List Char}
    (written : TagsText tags ('{' :: text)) :
    MessageLayout field tags ('[' :: '{' :: (text ++ [']'])) := by
  have elements : Elements (fun _ => TagsText) true [(field, tags)] _ :=
    .element (.first blank_nil) (by decide) written (.done blank_nil)
  simpa [MessageLayout] using RecordText.list blank_nil elements

theorem messageLayout_additional : MessageLayout "ResponseType" .empty
    "\x7b\"y\":\"\\ud800\",\"ResponseType\":\x7b\x7d\x7d".toList := by
  have unit : hexUnit? 'd' '8' '0' '0' = some 0xD800 := by decide
  have value : ValueText _ := ⟨[], _, blank_nil, .string (.unit unit .nil), rfl⟩
  have field : Members (FieldText ["ResponseType"] fun _ => TagsText) false
      [("ResponseType", some .empty)] _ :=
    .member (.next blank_nil blank_nil) (spelled_escaped _) blank_nil
      ⟨List.mem_cons_self, tagsText_empty⟩ (.done blank_nil)
  have members : Members (FieldText ["ResponseType"] fun _ => TagsText) true
      [("y", none), ("ResponseType", some .empty)] _ :=
    .member (.first blank_nil) (spelled_escaped _) blank_nil ⟨by decide, value⟩ field
  have order : (counted [("y", none), ("ResponseType", some Dictionary.empty)]).Perm
    [("ResponseType", (Dictionary.empty : Enumeration))] := .refl _
  have written : MessageLayout "ResponseType" .empty _ := .object blank_nil members order
  exact written

/-- A document with other fields, some records as lists, and the fields and entries out of order. -/
def mixedLayout : String :=
  "\x7b\"x\":[1e999,null],\"Term\":[\x7b\"B\" : -2,\"A\":1\x7d],\"Response\":"
    ++ "\x7b\"y\":\"\\ud800\",\"ResponseType\":\x7b\x7d\x7d,\"Query\":[\x7b\x7d]\x7d\n"

abbrev DefinitionMembers :=
  Members (FieldText messageNames fun name => MessageLayout (name ++ "Type"))

theorem isDocument_mixedLayout : IsDocument twoTerms mixedLayout.toList := by
  have one : WholeText ['1'] := .digits (.of_all (List.cons_ne_nil _ _) rfl) fun _ => rfl
  have power : PowerText ['e', '9', '9', '9'] :=
    .some (.inl rfl) (.inl rfl) (.of_all (List.cons_ne_nil _ _) rfl)
  have number : Grammar .value ['1', 'e', '9', '9', '9'] :=
    .number (.parts (.inl rfl) one .none power)
  have items : Grammar (.inside .list true) _ :=
    .item (.first blank_nil) .list number
      (.item (.next blank_nil blank_nil) .list (.word .null) (.done blank_nil))
  have value : ValueText _ := ⟨[], _, blank_nil, .nested items, rfl⟩
  have query : DefinitionMembers false [("Query", some twoTerms.query)] _ :=
    .member (.next blank_nil blank_nil) (spelled_escaped _) blank_nil
      ⟨by decide, messageLayout_list "QueryType" tagsText_empty⟩ (.done blank_nil)
  have response : DefinitionMembers false
      [("Response", some twoTerms.response), ("Query", some twoTerms.query)] _ :=
    .member (.next blank_nil blank_nil) (spelled_escaped _) blank_nil
      ⟨by decide, messageLayout_additional⟩ query
  have term : DefinitionMembers false
      [("Term", some twoTerms.term), ("Response", some twoTerms.response),
        ("Query", some twoTerms.query)] _ :=
    .member (.next blank_nil blank_nil) (spelled_escaped _) blank_nil
      ⟨by decide, messageLayout_list "TermType" tagsText_twoTerms⟩ response
  have members : DefinitionMembers true
      [("x", none), ("Term", some twoTerms.term), ("Response", some twoTerms.response),
        ("Query", some twoTerms.query)] _ :=
    .member (.first blank_nil) (spelled_escaped _) blank_nil ⟨by decide, value⟩ term
  have order : (counted [("x", none), ("Term", some twoTerms.term),
      ("Response", some twoTerms.response), ("Query", some twoTerms.query)]).Perm
      (fieldsOf twoTerms.query twoTerms.response twoTerms.term) := by decide
  have written : DefinitionLayout twoTerms _ := .object blank_nil members order
  exact ⟨_, ['\n'], written, blank_single rfl, by decide⟩

/-- A document of lists. -/
def listLayout : String := "[[\x7b\x7d],[\x7b\x7d],[\x7b\"B\" : -2,\"A\":1\x7d]]"

theorem isDocument_listLayout : IsDocument twoTerms listLayout.toList := by
  have query := messageLayout_list "QueryType" tagsText_empty
  have response := messageLayout_list "ResponseType" tagsText_empty
  have term := messageLayout_list "TermType" tagsText_twoTerms
  have elements : Elements (fun name => MessageLayout (name ++ "Type")) true
      (fieldsOf twoTerms.query twoTerms.response twoTerms.term) _ :=
    .element (.first blank_nil) (by decide) query
      (.element (.next blank_nil blank_nil) (by decide) response
        (.element (.next blank_nil blank_nil) (by decide) term (.done blank_nil)))
  exact ⟨_, [], .list blank_nil elements, blank_nil, by decide⟩

/-- The tags are read from documents that are laid out in other ways. -/
theorem ofJson_documents_twoTerms :
    (IsDocument twoTerms mixedLayout.toList ∧ ofJson mixedLayout = .ok twoTerms) ∧
      IsDocument twoTerms listLayout.toList ∧ ofJson listLayout = .ok twoTerms :=
  have read := (ofJson_documents twoTerms).2
  ⟨⟨isDocument_mixedLayout, read _ isDocument_mixedLayout⟩, isDocument_listLayout,
    read _ isDocument_listLayout⟩

end ReqlLua.Definition
