import ReqlLua.Proofs.Lua.Agreement

/-! Which methods can be fields of a Lua table. Every method is a name by its letters, but Lua keeps some
names for itself, and the overrides keep only three of them away from the methods. -/

namespace ReqlLua

namespace Lua

open MethodNames

/-- The words that Lua keeps for itself. -/
def keywords : List String :=
  ["and", "break", "do", "else", "elseif", "end", "false", "for", "function", "if", "in", "local", "nil",
    "not", "or", "repeat", "return", "then", "true", "until", "while"]

/-- Letters, digits and underscores, no digit first. -/
def isName (text : String) : Bool :=
  match text.toList with
  | [] => false
  | first :: rest => (first.isAlpha || first == '_') && rest.all isWordChar

/-- Name and expression of a table field. A keyword does not name a field. -/
def readField? (field : List Char) : Option (String × String) := do
  let (name, expression) ← Text.cutAt? " = ".toList field
  if isName (String.ofList name) ∧ String.ofList name ∉ keywords then
    some (String.ofList name, String.ofList expression)
  else none

theorem isName_of_isMethodName {name : String} (method : isMethodName name = true) :
    isName name = true := by
  rw [isMethodName] at method
  rw [isName]
  cases shape : name.toList with
  | nil => simp [shape] at method
  | cons first rest =>
    simp only [shape, Bool.and_eq_true, List.all_eq_true] at method ⊢
    obtain ⟨initial, following⟩ := method
    refine ⟨?_, fun c member => isWordChar_of_isFollowing (following c member)⟩
    rw [isInitial, Bool.or_eq_true] at initial
    change ((first.isUpper || first.isLower) || first == '_') = true
    rw [Bool.or_eq_true, Bool.or_eq_true]
    exact initial.imp_left .inr

/-- An entry of the method table is a field exactly if its method is no keyword. -/
theorem readField?_methodEntry {binding : Binding} (method : isMethodName binding.method = true) :
    readField? (methodEntry binding).toList =
      if binding.method ∈ keywords then none
      else some (binding.method, wrapperFunction binding.term.identifier binding.wrapper) := by
  have blank : ' ' ∉ binding.method.toList :=
    (isWord_of_isMethodName method).not_mem (by decide)
  have fields : (methodEntry binding).toList = binding.method.toList ++ (" = ".toList ++
      (wrapperFunction binding.term.identifier binding.wrapper).toList) := by
    rw [methodEntry, String.toList_append, String.toList_append, List.append_assoc]
  unfold readField?
  rw [fields]
  apply (Text.bind_cutAt?_separated (by decide) blank).trans
  simp only [String.ofList_toList, isName_of_isMethodName method, true_and]
  by_cases kept : binding.method ∈ keywords
  · rw [if_neg (not_not_intro kept), if_pos kept]
  · rw [if_pos kept, if_neg kept]

end Lua

namespace MethodNames

open Lua

/-! ### Keywords among the names -/

theorem toUpper_toLower {c : Char} (following : Catalog.isFollowing c = true) :
    c.toLower.toUpper = c :=
  Text.forall_ascii (P := fun c => Catalog.isFollowing c = true → c.toLower.toUpper = c) (by decide)
    (isWordChar_ascii (Catalog.isWordChar_of_isFollowing following)) following

/-- An identifier is the capital form of its lower case. -/
theorem toUpper_lowercase {identifier : String} (wellFormed : Catalog.isIdentifier identifier = true) :
    (Text.lowercase identifier).toUpper = identifier := by
  have word := Catalog.isWord_of_isIdentifier wellFormed
  have lower := Text.lowercase_ascii fun c member => isWordChar_ascii (word c member)
  have back : identifier.toList.map (Char.toUpper ∘ Char.toLower) = identifier.toList.map id :=
    List.map_congr_left fun c member =>
      toUpper_toLower (Catalog.isFollowing_of_isIdentifier wellFormed c member)
  apply String.toList_injective
  rw [String.toUpper, String.toList_map, lower, List.map_map, back, List.map_id]

/-- A name is a keyword if the override says so, or if there is none and the identifier is a keyword in
capitals. -/
theorem nameOf_mem_keywords_iff {names : MethodNames} {identifier : String}
    (wellFormed : Catalog.isIdentifier identifier = true) :
    names.nameOf identifier ∈ keywords ↔
      match names.get? identifier with
      | some name => name ∈ keywords
      | none => identifier ∈ keywords.map String.toUpper := by
  have capitals : ∀ word ∈ keywords, Text.lowercase word.toUpper = word := by decide +kernel
  rw [nameOf]
  cases names.get? identifier with
  | some name => exact Iff.rfl
  | none =>
    constructor
    · intro kept
      exact List.mem_map.2 ⟨_, kept, toUpper_lowercase wellFormed⟩
    · intro member
      obtain ⟨word, kept, rfl⟩ := List.mem_map.1 member
      rw [Option.getD_none, capitals word kept]
      exact kept

/-- Keywords in capitals for which the query language has no override. -/
def unguarded : List String :=
  ["BREAK", "DO", "ELSE", "ELSEIF", "END", "FALSE", "FOR", "FUNCTION", "IF", "IN", "LOCAL", "NIL",
    "REPEAT", "RETURN", "THEN", "TRUE", "UNTIL", "WHILE"]

theorem reql_nameOf_mem_keywords_iff {identifier : String}
    (wellFormed : Catalog.isIdentifier identifier = true) :
    reql.nameOf identifier ∈ keywords ↔ identifier ∈ unguarded := by
  have overrides : ∀ entry ∈ reql.entries, entry.2 ∉ keywords := by decide
  have guarded : ∀ word ∈ keywords.map String.toUpper, reql.get? word = none → word ∈ unguarded := by
    decide +kernel
  have noOverride : ∀ word ∈ unguarded, reql.get? word = none ∧ word ∈ keywords.map String.toUpper := by
    decide +kernel
  rw [nameOf_mem_keywords_iff wellFormed]
  cases found : reql.get? identifier with
  | some name =>
    have free := overrides (identifier, name) (Dictionary.mem_of_get? found)
    refine iff_of_false free fun member => ?_
    rw [(noOverride identifier member).1] at found
    cases found
  | none => exact ⟨fun member => guarded identifier member found, fun member => (noOverride identifier member).2⟩

end MethodNames

namespace Generator

open Lua MethodNames

variable {home : Location}

/-- Methods are names, and their entries are fields of a table exactly if no term of the catalog is a
keyword in capitals that has no override. -/
theorem methods_are_fields_iff {enumeration : Enumeration} {catalog : Catalog}
    (accepted : Catalog.ofEnumeration enumeration = .ok catalog) {tree left : FileTree home}
    {bindings : List Binding}
    (planned : Attempt.on (planBindings .reql catalog) tree = (.ok bindings, left)) :
    (∀ binding ∈ bindings, isName binding.method = true) ∧
      ((∀ binding ∈ bindings, binding.method ∉ keywords) ↔
        ∀ identifier ∈ catalog.identifiers, identifier ∉ unguarded) ∧
      ∀ binding ∈ bindings, readField? (methodEntry binding).toList =
        if binding.term.identifier ∈ unguarded then none
        else some (binding.method, wrapperFunction binding.term.identifier binding.wrapper) := by
  rw [on_planBindings] at planned
  cases named : Binding.ofCatalog .reql catalog with
  | error fault =>
    rw [named] at planned
    cases planned
  | ok found =>
    rw [named] at planned
    cases planned
    rw [Binding.ofCatalog_ok named, Catalog.identifiers]
    simp only [List.forall_mem_map]
    have overrides : ∀ entry ∈ MethodNames.reql.entries, isMethodName entry.2 = true := by decide
    have wellFormed : ∀ term ∈ catalog.terms, Catalog.isIdentifier term.identifier = true :=
      fun term among => Catalog.isIdentifier_of_mem accepted _ (List.mem_map_of_mem among)
    have method : ∀ term ∈ catalog.terms, isMethodName (Tables.reql.binding term).method = true :=
      fun term among => isMethodName_nameOf overrides (wellFormed term among)
    have keyword : ∀ term ∈ catalog.terms,
        (Tables.reql.binding term).method ∈ keywords ↔ term.identifier ∈ unguarded :=
      fun term among => reql_nameOf_mem_keywords_iff (wellFormed term among)
    refine ⟨fun term among => isName_of_isMethodName (method term among), ?_, ?_⟩
    · exact forall₂_congr fun term among => not_congr (keyword term among)
    · intro term among
      rw [readField?_methodEntry (method term among)]
      simp only [keyword term among]
      rfl

/-- Two keywords with an override beside a name that needs none. -/
theorem methods_are_fields_iff_and :
    let terms : Enumeration := .ofList [("AND", 67), ("NE", 18), ("NOT", 23)]
    let catalog : Catalog := ⟨[⟨"AND", 67⟩, ⟨"NE", 18⟩, ⟨"NOT", 23⟩]⟩
    Catalog.ofEnumeration terms = .ok catalog ∧
      ∃ bindings, Attempt.on (planBindings .reql catalog) .bare = (.ok bindings, .bare) ∧
        bindings.map Binding.method = ["and_", "ne", "not_"] ∧
        ∀ binding ∈ bindings, isName binding.method = true ∧ binding.method ∉ keywords := by
  intro terms catalog
  have accepted : Catalog.ofEnumeration terms = .ok catalog := by rfl
  let bindings := catalog.terms.map Tables.reql.binding
  have planned : Attempt.on (planBindings .reql catalog) .bare = (.ok bindings, .bare) :=
    (on_planBindings .reql catalog .bare).trans (by rfl)
  obtain ⟨names, free, -⟩ := methods_are_fields_iff accepted planned
  have guarded : ∀ identifier ∈ catalog.identifiers, identifier ∉ unguarded := by decide
  exact ⟨accepted, bindings, planned, by rfl,
    fun binding member => ⟨names binding member, free.2 guarded binding member⟩⟩

/-- A term whose method is a keyword. Its entry is not a field of a table. -/
theorem method_is_keyword :
    let terms : Enumeration := .ofList [("END", 1)]
    let catalog : Catalog := ⟨[⟨"END", 1⟩]⟩
    Catalog.ofEnumeration terms = .ok catalog ∧
      ∃ bindings, Attempt.on (planBindings .reql catalog) .bare = (.ok bindings, .bare) ∧
        methods bindings = "end = function(...) return END(\x7b\x7d, ...) end" ∧
        readField? (methods bindings).toList = none ∧
        ¬ ∀ binding ∈ bindings, binding.method ∉ keywords := by
  intro terms catalog
  have accepted : Catalog.ofEnumeration terms = .ok catalog := by rfl
  let bindings := catalog.terms.map Tables.reql.binding
  have planned : Attempt.on (planBindings .reql catalog) .bare = (.ok bindings, .bare) :=
    (on_planBindings .reql catalog .bare).trans (by rfl)
  have written : methods bindings = "end = function(...) return END(\x7b\x7d, ...) end" := by rfl
  refine ⟨accepted, bindings, planned, written, ?_, ?_⟩
  · rw [written]
    decide +kernel
  · decide +kernel

end Generator

end ReqlLua
