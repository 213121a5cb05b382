import Mathlib
import ReqlLua.Proofs.Lua.Keyword
import ReqlLua.Proofs.Protocol.RoundTrip

/-! The Lua tables of the enumerations. A table is read back as its entries exactly if all of its names can
name a field. The names of terms always can; those of queries and responses are not looked at. -/

namespace ReqlLua

namespace Lua

/-! ### Reading a table -/

/-- Whether Lua takes a text for the name of a field. -/
def IsFieldName (name : String) : Prop := isName name = true ∧ name ∉ keywords

instance : DecidablePred IsFieldName := fun name =>
  inferInstanceAs (Decidable (isName name = true ∧ name ∉ keywords))

/-- Digits, with a minus sign before them or not. -/
def isNumber : List Char → Bool
  | '-' :: digits => !digits.isEmpty && digits.all Char.isDigit
  | digits => !digits.isEmpty && digits.all Char.isDigit

/-- Name and number of a line, which is set in by two blanks and ends with a comma. -/
def readTableLine? (line : List Char) : Option (String × Int) :=
  if "  ".toList.isPrefixOf line ∧ line.getLast? = some ',' then
    (readField? (line.drop 2).dropLast).bind fun field =>
      if isNumber field.2.toList then some (field.1, Text.signedValue field.2.toList) else none
  else none

/-- The entries of a table whose braces stand on lines of their own. -/
def readTable? (text : String) : Option (List (String × Int)) :=
  match Text.splitAt "\n".toList text.toList with
  | ['{'] :: lines =>
    if lines.getLast? = some ['}'] then lines.dropLast.mapM readTableLine? else none
  | _ => none

theorem isFieldName_of_readField? {text : List Char} {field : String × String}
    (read : readField? text = some field) : IsFieldName field.1 := by
  obtain ⟨⟨name, expression⟩, -, read⟩ := Option.bind_eq_some_iff.1 read
  obtain ⟨usable, same⟩ := Option.ite_none_right_eq_some.1 read
  cases same
  exact usable

theorem isFieldName_of_readTableLine? {line : List Char} {entry : String × Int}
    (read : readTableLine? line = some entry) : IsFieldName entry.1 := by
  obtain ⟨-, read⟩ := Option.ite_none_right_eq_some.1 read
  obtain ⟨field, fields, read⟩ := Option.bind_eq_some_iff.1 read
  obtain ⟨-, same⟩ := Option.ite_none_right_eq_some.1 read
  cases same
  exact isFieldName_of_readField? fields

theorem forall_of_mapM {α β : Type} {read : α → Option β} {P : β → Prop}
    (each : ∀ text value, read text = some value → P value) {texts : List α} {values : List β}
    (reads : texts.mapM read = some values) : ∀ value ∈ values, P value := by
  induction texts generalizing values with
  | nil =>
    cases reads
    exact fun _ member => absurd member List.not_mem_nil
  | cons text texts ih =>
    rw [List.mapM_cons] at reads
    obtain ⟨first, one, reads⟩ := Option.bind_eq_some_iff.1 reads
    obtain ⟨others, later, reads⟩ := Option.bind_eq_some_iff.1 reads
    cases reads
    exact List.forall_mem_cons.2 ⟨each _ _ one, ih later⟩

/-- Whatever text is read as a table, its names can name fields. -/
theorem isFieldName_of_readTable? {text : String} {listed : List (String × Int)}
    (read : readTable? text = some listed) : ∀ entry ∈ listed, IsFieldName entry.1 := by
  unfold readTable? at read
  split at read
  · split at read
    · exact forall_of_mapM (fun _ _ => isFieldName_of_readTableLine?) read
    · cases read
  · cases read

/-! ### The tables of enumerations -/

/-- A line of a table without its end. -/
def tableLine (entry : String × Int64) : String :=
  "  " ++ entry.1 ++ " = " ++ toString entry.2.toInt ++ ","

theorem join_lines (lines : List String) (last : String) :
    String.join (lines.map (· ++ "\n")) ++ last = "\n".intercalate (lines ++ [last]) := by
  induction lines with
  | nil => rw [List.map_nil, String.join_nil, String.empty_append, List.nil_append,
      String.intercalate_singleton]
  | cons line lines ih =>
    have more : lines ++ [last] ≠ [] := List.append_ne_nil_of_right_ne_nil lines (List.cons_ne_nil _ _)
    rw [List.map_cons, String.join_cons, String.append_assoc, ih, List.cons_append,
      String.intercalate_cons_of_ne_nil more]

theorem lua_eq_lines (enumeration : Enumeration) :
    enumeration.lua = "\n".intercalate ("\x7b" :: enumeration.byTag.map tableLine ++ ["\x7d"]) := by
  have ended : (fun line => line ++ "\n") ∘ tableLine = Enumeration.luaLine := by
    funext entry
    rw [Function.comp_apply, tableLine, String.append_assoc]
    rfl
  rw [← join_lines, List.map_cons, List.map_map, String.join_cons, ended]
  rfl

/-- Braces around one line for each entry, each brace on a line of its own. -/
def IsTable (text : String) (enumeration : Enumeration) : Prop :=
  ∃ entries : List (String × Int64), entries.Perm enumeration.entries ∧
    text = "\n".intercalate ("\x7b" :: entries.map tableLine ++ ["\x7d"])

theorem isTable_lua (enumeration : Enumeration) : IsTable enumeration.lua enumeration :=
  ⟨enumeration.byTag, List.mergeSort_perm _ _, lua_eq_lines enumeration⟩

theorem isNumber_digits {digits : List Char} (some : digits ≠ [])
    (isDigits : ∀ c ∈ digits, c.isDigit = true) :
    (!digits.isEmpty && digits.all Char.isDigit) = true := by
  rw [Bool.and_eq_true, Bool.not_eq_true', List.isEmpty_eq_false_iff, List.all_eq_true]
  exact ⟨some, isDigits⟩

theorem isNumber_toString (n : Int) : isNumber (toString n).toList = true := by
  have digits := isNumber_digits (Nat.toDigits_ne_nil (b := 10) (n := n.natAbs))
    fun c => Text.isDigit_of_mem_toDigits
  rw [Text.toString_int_toList]
  split
  · unfold isNumber
    split
    · next digits same => exact absurd same (Text.toDigits_ne_minus _ _)
    · exact digits
  · exact digits

theorem isWordChar_of_isAlpha {c : Char} (letter : c.isAlpha = true) : isWordChar c = true := by
  rw [isWordChar, Char.isAlphanum, letter]
  rfl

theorem IsFieldName.isWord {name : String} (usable : IsFieldName name) : IsWord name := by
  have wellFormed := usable.1
  rw [isName] at wellFormed
  cases shape : name.toList with
  | nil => simp [shape] at wellFormed
  | cons first rest =>
    simp only [shape, Bool.and_eq_true, Bool.or_eq_true, beq_iff_eq, List.all_eq_true] at wellFormed
    obtain ⟨letter | rfl, following⟩ := wellFormed
    · exact isWord_cons shape (isWordChar_of_isAlpha letter) following
    · exact isWord_cons shape (by decide) following

theorem tableLine_toList (name : String) (tag : Int64) :
    (tableLine (name, tag)).toList =
      "  ".toList ++ ((name.toList ++ (" = ".toList ++ (toString tag.toInt).toList)) ++ [',']) := by
  simp only [tableLine, String.toList_append, List.append_assoc]
  rfl

theorem readTableLine?_tableLine {name : String} (usable : IsFieldName name) (tag : Int64) :
    readTableLine? (tableLine (name, tag)).toList = some (name, tag.toInt) := by
  have blank : ' ' ∉ name.toList := usable.isWord.not_mem (by decide)
  have field : readField? (name.toList ++ (" = ".toList ++ (toString tag.toInt).toList)) =
      some (name, toString tag.toInt) := by
    apply (Text.bind_cutAt?_separated (by decide) blank).trans
    simp only [String.ofList_toList]
    exact if_pos usable
  rw [readTableLine?, tableLine_toList, if_pos, show 2 = "  ".toList.length from rfl, List.drop_left,
    List.dropLast_concat, field]
  · rw [Option.bind_some, if_pos (isNumber_toString _), Text.signedValue_toString]
  · refine ⟨List.isPrefixOf_iff_prefix.2 (List.prefix_append _ _), ?_⟩
    rw [← List.append_assoc, List.getLast?_concat]

/-- A text whose names keep to their lines has one line for each entry between those of the braces. -/
theorem splitAt_lua {enumeration : Enumeration} (free : ∀ name ∈ enumeration.keys, '\n' ∉ name.toList) :
    Text.splitAt "\n".toList enumeration.lua.toList =
      ['{'] :: ((enumeration.byTag.map tableLine).map String.toList ++ [['}']]) := by
  have lineFree : ∀ entry ∈ enumeration.byTag, '\n' ∉ (tableLine entry).toList := by
    intro entry member
    have name : '\n' ∉ entry.1.toList := free entry.1 (List.mem_map_of_mem (List.mem_mergeSort.1 member))
    have tag : '\n' ∉ (toString entry.2.toInt).toList :=
      Text.not_mem_toString (by decide) (by decide)
    simp only [tableLine, String.toList_append, List.mem_append, not_or]
    exact ⟨⟨⟨⟨by decide, name⟩, by decide⟩, tag⟩, by decide⟩
  have oneLine : ∀ line ∈ "\x7b" :: enumeration.byTag.map tableLine ++ ["\x7d"], '\n' ∉ line.toList :=
    List.forall_mem_append.2
      ⟨List.forall_mem_cons.2 ⟨by decide, List.forall_mem_map.2 lineFree⟩, by decide⟩
  rw [lua_eq_lines, splitAt_list (by simp) (by decide) oneLine, List.map_append, List.map_cons]
  rfl

theorem readTable?_lua {enumeration : Enumeration}
    (usable : ∀ name ∈ enumeration.keys, IsFieldName name) :
    readTable? enumeration.lua =
      some (enumeration.byTag.map fun entry => (entry.1, entry.2.toInt)) := by
  have names : ∀ entry ∈ enumeration.byTag, IsFieldName entry.1 := fun entry member =>
    usable entry.1 (List.mem_map_of_mem (List.mem_mergeSort.1 member))
  have reads : ((enumeration.byTag.map tableLine).map String.toList).mapM readTableLine? =
      some (enumeration.byTag.map fun entry => (entry.1, entry.2.toInt)) := by
    rw [List.map_map]
    exact mapM_of_forall fun entry member => readTableLine?_tableLine (names entry member) entry.2
  have free : ∀ name ∈ enumeration.keys, '\n' ∉ name.toList := fun name member =>
    (usable name member).isWord.not_mem (by decide)
  rw [readTable?, splitAt_lua free]
  simp only [List.getLast?_concat, List.dropLast_concat, if_true, reads]

/-- The text is a table of all the entries of an enumeration and of nothing else. -/
def Lists (text : String) (enumeration : Enumeration) : Prop :=
  ∃ listed, readTable? text = some listed ∧
    listed.Perm (enumeration.entries.map fun entry => (entry.1, entry.2.toInt))

theorem lists_lua_iff {enumeration : Enumeration} :
    Lists enumeration.lua enumeration ↔ ∀ name ∈ enumeration.keys, IsFieldName name := by
  constructor
  · rintro ⟨listed, read, same⟩ name member
    obtain ⟨entry, among, rfl⟩ := List.mem_map.1 member
    exact isFieldName_of_readTable? read (entry.1, entry.2.toInt)
      (same.mem_iff.2 (List.mem_map.2 ⟨entry, among, rfl⟩))
  · intro usable
    exact ⟨_, readTable?_lua usable, (List.mergeSort_perm _ _).map _⟩

theorem isFieldName_of_isIdentifier {name : String} (identifier : Catalog.isIdentifier name = true) :
    IsFieldName name := by
  have small : ∀ word ∈ keywords, Catalog.isIdentifier word = false := by decide
  constructor
  · have following := Catalog.isFollowing_of_isIdentifier identifier
    rw [Catalog.isIdentifier] at identifier
    rw [isName]
    cases shape : name.toList with
    | nil => simp [shape] at identifier
    | cons first rest =>
      simp only [shape, Bool.and_eq_true, List.all_eq_true] at identifier following ⊢
      refine ⟨?_, fun c member =>
        Catalog.isWordChar_of_isFollowing (following c (List.mem_cons_of_mem _ member))⟩
      have initial := identifier.1
      rw [Catalog.isInitial, Bool.or_eq_true] at initial
      change ((first.isUpper || first.isLower) || first == '_') = true
      rw [Bool.or_eq_true, Bool.or_eq_true]
      exact initial.imp_left .inl
  · intro kept
    rw [small name kept] at identifier
    cases identifier

end Lua

namespace Generator

open Lua

variable {home : Location}

/-- A generator has the tables of all three enumerations, with one line for each entry. That of the terms can
be read back as it is; those of the queries and the responses can exactly if all their names can name
fields. -/
theorem tables_read_back_iff {settings : Settings} {definition : Definition} {tables : Tables}
    {generator : Generator} {tree left : FileTree home}
    (made : Attempt.on (ofTables settings definition tables) tree = (.ok generator, left)) :
    ∃ query response term,
      generator.substitutions.get? "Query" = some query ∧
      generator.substitutions.get? "Response" = some response ∧
      generator.substitutions.get? "Term" = some term ∧
      IsTable query definition.query ∧ IsTable response definition.response ∧
      IsTable term definition.term ∧
      (Lists query definition.query ↔ ∀ name ∈ definition.query.keys, IsFieldName name) ∧
      (Lists response definition.response ↔ ∀ name ∈ definition.response.keys, IsFieldName name) ∧
      Lists term definition.term := by
  obtain ⟨-, catalog, blocks, listed, -, rfl⟩ := on_ofTables_ok.1 made
  refine ⟨definition.query.lua, definition.response.lua, definition.term.lua, ?_, ?_, ?_,
    isTable_lua _, isTable_lua _, isTable_lua _, lists_lua_iff, lists_lua_iff, lists_lua_iff.2 ?_⟩
  · exact get?_substitutionsOf.2 (by simp)
  · exact get?_substitutionsOf.2 (by simp)
  · exact get?_substitutionsOf.2 (by simp)
  · intro name member
    obtain ⟨entry, among, rfl⟩ := List.mem_map.1 member
    have checked := (Catalog.terms_of_ofEnumeration listed).1
    exact isFieldName_of_isIdentifier (Catalog.isIdentifier_of_check checked entry among)

/-- Names in any order, reserved ones and a negative tag among them. -/
theorem tables_read_back_iff_reql :
    let definition : Definition :=
      ⟨.ofList [("STOP", 3), ("START", 1)], .ofList [("wait_complete", 4)],
        .ofList [("DATUM", 1), ("ADD", -24)]⟩
    ∃ generator, Attempt.on (ofTables .default definition .reql) .bare = (.ok generator, .bare) ∧
      ∃ query response term,
        generator.substitutions.get? "Query" = some query ∧
        generator.substitutions.get? "Response" = some response ∧
        generator.substitutions.get? "Term" = some term ∧
        Lists query definition.query ∧ Lists response definition.response ∧
        Lists term definition.term := by
  intro definition
  have query : ∀ name ∈ definition.query.keys, IsFieldName name := by decide +kernel
  have response : ∀ name ∈ definition.response.keys, IsFieldName name := by decide +kernel
  obtain ⟨generator, made⟩ : ∃ generator,
      Attempt.on (ofTables .default definition .reql) .bare = (.ok generator, .bare) := by
    rw [on_ofTables]
    exact ⟨_, rfl⟩
  obtain ⟨first, second, third, atQuery, atResponse, atTerm, -, -, -, one, two, three⟩ :=
    tables_read_back_iff made
  exact ⟨generator, made, first, second, third, atQuery, atResponse, atTerm, one.2 query,
    two.2 response, three⟩

/-- A query type that is a keyword makes a table that Lua does not read, and a response type with a line
feed in its name makes one with other entries. -/
theorem tables_of_unchecked_names :
    let definition : Definition :=
      ⟨.ofList [("end", 1)], .ofList [("A = 1,\n  B", 7)], .ofList [("ADD", 24)]⟩
    let query := "\x7b\n  end = 1,\n\x7d"
    let response := "\x7b\n  A = 1,\n  B = 7,\n\x7d"
    Definition.ofJson definition.json = .ok definition ∧
      ∃ generator, Attempt.on (ofTables .default definition .reql) .bare = (.ok generator, .bare) ∧
        generator.substitutions.get? "Query" = some query ∧ ¬Lists query definition.query ∧
        generator.substitutions.get? "Response" = some response ∧
        ¬Lists response definition.response ∧ Lists response (.ofList [("A", 1), ("B", 7)]) := by
  intro definition query response
  have written := Definition.ofJson_of_written (Definition.definitionText_json definition)
  have queryText : definition.query.lua = query := by cbv
  have responseText : definition.response.lua = response := by cbv
  have otherText : Enumeration.lua (.ofList [("A", 1), ("B", 7)]) = response := by cbv
  have other : Lists response (.ofList [("A", 1), ("B", 7)]) := by
    rw [← otherText]
    exact lists_lua_iff.2 (by decide +kernel)
  obtain ⟨blocks, made⟩ : ∃ blocks, Attempt.on (ofTables .default definition .reql) .bare =
      (.ok ⟨.default, substitutionsOf definition blocks⟩, .bare) := by
    rw [on_ofTables]
    exact ⟨_, rfl⟩
  refine ⟨written, _, made, ?_, ?_, ?_, ?_, other⟩
  · rw [← queryText]
    exact get?_substitutionsOf.2 (by simp)
  · rw [← queryText, lists_lua_iff]
    decide +kernel
  · rw [← responseText]
    exact get?_substitutionsOf.2 (by simp)
  · rw [← responseText, lists_lua_iff]
    decide +kernel

end Generator

end ReqlLua
