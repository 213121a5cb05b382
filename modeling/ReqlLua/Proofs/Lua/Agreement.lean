import ReqlLua.Proofs.Binding.Naming
import ReqlLua.Proofs.Generator.Prepare
import ReqlLua.Proofs.Lua.Reading

/-! The three blocks of a catalog describe the same terms: read back, they yield the identifiers, tags,
methods and wrappers of the terms, each in catalog order. -/

namespace ReqlLua

namespace Lua

open MethodNames

/-! ### Whole blocks -/

theorem readNames?_names (width : Nat) {identifiers : List String} (nonempty : identifiers ≠ [])
    (words : ∀ identifier ∈ identifiers, IsWord identifier) :
    readNames? (names width identifiers) = some identifiers := by
  let groups := nameGroups width identifiers
  have words' : ∀ group ∈ groups, ∀ name ∈ group, IsWord name := fun _ member _ among =>
    words _ (mem_of_mem_nameGroups member among)
  have oneLine : ∀ identifier ∈ identifiers, '\n' ∉ identifier.toList := fun identifier member =>
    (words identifier member).not_mem (by decide)
  have reads : ((groups.map declaration).map String.toList).mapM readDeclaration? = some groups := by
    rw [List.map_map]
    have each : ∀ group ∈ groups, readDeclaration? (declaration group).toList = some group :=
      fun group member =>
        readDeclaration?_declaration (ne_nil_of_mem_nameGroups member) (words' group member)
    exact (mapM_of_forall each).trans (congrArg some (List.map_id groups))
  rw [readNames?, splitAt_names width nonempty oneLine, reads, Option.map_some,
    flatten_nameGroups]

/-- A binding whose identifier and method are words. -/
structure Binding.Plain (binding : Binding) : Prop where
  identifier : IsWord binding.term.identifier
  method : IsWord binding.method

theorem not_mem_classLine {binding : Binding} (word : IsWord binding.term.identifier) {c : Char}
    (other : isBlockChar c = false) (method : c ∉ (quoted binding.method).toList) :
    c ∉ (classLine binding).toList := by
  have fixed {part : List Char} (signs : part.all isBlockChar = true) : c ∉ part :=
    not_mem_of_isBlockChar signs other
  have notWord := not_isWordChar_of_not_isBlockChar other
  have notQuote : c ≠ '\'' := fun same => absurd (same ▸ other) (by decide)
  have notMinus : c ≠ '-' := fun same => absurd (same ▸ other) (by decide)
  have identifier : c ∉ binding.term.identifier.toList := word.not_mem notWord
  have quoted : c ∉ (quoted binding.term.identifier).toList := not_mem_quoted word notWord notQuote
  have tag : c ∉ (toString binding.term.tag.toInt).toList :=
    Text.not_mem_toString (not_isDigit_of_not_isWordChar notWord) notMinus
  simp only [classLine, String.toList_append, List.mem_append, not_or]
  exact ⟨⟨⟨⟨⟨⟨⟨identifier, fixed (by decide)⟩, quoted⟩, fixed (by decide)⟩, tag⟩, fixed (by decide)⟩,
    method⟩, fixed (by decide)⟩

theorem classLine_oneLine {binding : Binding} (word : IsWord binding.term.identifier) :
    '\n' ∉ (classLine binding).toList :=
  not_mem_classLine word (by decide) (quoted_oneLine _)

theorem not_mem_methodEntry {binding : Binding} (plain : Binding.Plain binding) {c : Char}
    (other : isBlockChar c = false) : c ∉ (methodEntry binding).toList := by
  have fixed {part : List Char} (signs : part.all isBlockChar = true) : c ∉ part :=
    not_mem_of_isBlockChar signs other
  have notWord := not_isWordChar_of_not_isBlockChar other
  have notDigit := not_isDigit_of_not_isWordChar notWord
  have identifier : c ∉ binding.term.identifier.toList := plain.identifier.not_mem notWord
  have method : c ∉ binding.method.toList := plain.method.not_mem notWord
  have parameters : c ∉ (", ".intercalate (wrapperLists binding.wrapper).1).toList :=
    not_mem_joined (fixed (by decide)) fun _ member =>
      not_mem_parameter member notDigit (fixed (by decide))
  have call : c ∉ (", ".intercalate (wrapperLists binding.wrapper).2).toList :=
    not_mem_joined (fixed (by decide)) fun _ member =>
      not_mem_call member notDigit (fixed (by decide))
  simp only [methodEntry, wrapperFunction_eq, function, String.toList_append, List.mem_append,
    not_or]
  exact ⟨⟨method, fixed (by decide)⟩, ⟨⟨⟨⟨⟨⟨fixed (by decide), parameters⟩, fixed (by decide)⟩,
    identifier⟩, fixed (by decide)⟩, call⟩, fixed (by decide)⟩⟩

theorem readClasses?_classes {bindings : List Binding} (nonempty : bindings ≠ [])
    (plain : ∀ binding ∈ bindings, Binding.Plain binding) :
    readClasses? (classes bindings) = some (bindings.map fun binding =>
      (binding.term.identifier, binding.term.tag.toInt, binding.method)) := by
  have someLine : bindings.map classLine ≠ [] := fun empty => nonempty (List.map_eq_nil_iff.1 empty)
  have oneLine : ∀ line ∈ bindings.map classLine, '\n' ∉ line.toList := by
    intro line member
    obtain ⟨binding, among, rfl⟩ := List.mem_map.1 member
    exact classLine_oneLine (plain binding among).identifier
  rw [readClasses?, classes, splitAt_list someLine (by decide) oneLine, List.map_map]
  apply mapM_of_forall
  intro binding member
  have words := plain binding member
  exact readClassLine?_classLine words.identifier words.method

theorem readMethods?_methods {bindings : List Binding} (nonempty : bindings ≠ [])
    (plain : ∀ binding ∈ bindings, Binding.Plain binding) :
    readMethods? (methods bindings) = some (bindings.map fun binding =>
      (binding.method, binding.term.identifier, binding.wrapper)) := by
  have someEntry : bindings.map methodEntry ≠ [] := fun empty =>
    nonempty (List.map_eq_nil_iff.1 empty)
  have oneLine : ∀ entry ∈ bindings.map methodEntry, '\n' ∉ entry.toList := by
    intro entry member
    obtain ⟨binding, among, rfl⟩ := List.mem_map.1 member
    exact not_mem_methodEntry (plain binding among) (by decide)
  rw [readMethods?, methods, splitAt_list someEntry (by decide) oneLine, List.map_map]
  apply mapM_of_forall
  intro binding member
  have words := plain binding member
  exact readMethodEntry?_methodEntry words.method words.identifier

end Lua

namespace Generator

open Lua MethodNames

variable {home : Location}

/-! ### Generated blocks -/

theorem blocks_of_generateBlocks {tables : Tables} {catalog : Catalog} {tree : FileTree home}
    {blocks : Blocks}
    (generated : ((generateBlocks tables catalog).run.runOn tree).result = .ok blocks) :
    blocks = Blocks.ofBindings tables.wrapWidth catalog (catalog.terms.map tables.binding) := by
  have result := congrArg Prod.fst (on_generateBlocks tables catalog tree)
  rw [show (Attempt.on _ tree).1 = .ok blocks from generated, Blocks.generate] at result
  cases named : Binding.ofCatalog tables catalog with
  | error fault =>
    rw [named] at result
    cases result
  | ok bindings =>
    rw [named] at result
    cases result
    rw [Binding.ofCatalog_ok named]

theorem bindings_of_planBindings {tables : Tables} {catalog : Catalog} {tree left : FileTree home}
    {bindings : List Binding}
    (planned : Attempt.on (planBindings tables catalog) tree = (.ok bindings, left)) :
    bindings = catalog.terms.map tables.binding := by
  rw [on_planBindings] at planned
  cases named : Binding.ofCatalog tables catalog with
  | error fault =>
    rw [named] at planned
    cases planned
  | ok found =>
    rw [named] at planned
    cases planned
    exact Binding.ofCatalog_ok named

theorem plain_bindings {enumeration : Enumeration} {catalog : Catalog}
    (accepted : Catalog.ofEnumeration enumeration = .ok catalog) {tables : Tables}
    (overrides : ∀ entry ∈ tables.names.entries, isMethodName entry.2 = true) :
    ∀ binding ∈ catalog.terms.map tables.binding, Lua.Binding.Plain binding := by
  intro binding member
  obtain ⟨term, among, rfl⟩ := List.mem_map.1 member
  have identifier := Catalog.isIdentifier_of_term accepted term among
  exact ⟨Catalog.isWord_of_isIdentifier identifier,
    isWord_of_isMethodName (isMethodName_nameOf overrides identifier)⟩

/-- Whatever the width and the tables, the three blocks list the terms of the catalog, each once and
none of the reserved ones. -/
theorem generateBlocks_agree {enumeration : Enumeration} {catalog : Catalog}
    (accepted : Catalog.ofEnumeration enumeration = .ok catalog) {tables : Tables}
    (overrides : ∀ entry ∈ tables.names.entries, isMethodName entry.2 = true) {tree : FileTree home}
    {blocks : Blocks}
    (generated : ((generateBlocks tables catalog).run.runOn tree).result = .ok blocks) :
    catalog.identifiers.Nodup ∧
      (∀ identifier ∈ catalog.identifiers, identifier ∉ Catalog.reserved) ∧
      (catalog.terms = [] → blocks = ⟨"", "", ""⟩) ∧
      (catalog.terms ≠ [] →
        readNames? blocks.names = some catalog.identifiers ∧
        readClasses? blocks.classes = some (catalog.terms.map fun term =>
          (term.identifier, term.tag.toInt, tables.names.nameOf term.identifier)) ∧
        readMethods? blocks.methods = some (catalog.terms.map fun term =>
          (tables.names.nameOf term.identifier, term.identifier,
            tables.wrappers.wrapper term.identifier))) := by
  have plain := plain_bindings accepted overrides
  rw [blocks_of_generateBlocks generated, Blocks.ofBindings]
  refine ⟨Catalog.nodup_identifiers accepted, Catalog.not_reserved accepted, ?_, ?_⟩
  · intro empty
    rw [Catalog.identifiers, empty]
    rfl
  · intro nonempty
    have someBinding : catalog.terms.map tables.binding ≠ [] := fun empty =>
      nonempty (List.map_eq_nil_iff.1 empty)
    have someIdentifier : catalog.identifiers ≠ [] := fun empty =>
      nonempty (List.map_eq_nil_iff.1 empty)
    have words : ∀ identifier ∈ catalog.identifiers, IsWord identifier := fun identifier member =>
      Catalog.isWord_of_isIdentifier (Catalog.isIdentifier_of_mem accepted identifier member)
    refine ⟨readNames?_names tables.wrapWidth someIdentifier words, ?_, ?_⟩
    · rw [readClasses?_classes someBinding plain, List.map_map]
      rfl
    · rw [readMethods?_methods someBinding plain, List.map_map]
      rfl

/-- A plain term, one with a fixed arity and one with an options tail, beside a reserved term. -/
theorem generateBlocks_agree_reql :
    let terms : Enumeration :=
      .ofList [("GET_ALL", 78), ("DATUM", 1), ("FILTER", 39), ("ADD", -24)]
    let catalog : Catalog := ⟨[⟨"ADD", -24⟩, ⟨"FILTER", 39⟩, ⟨"GET_ALL", 78⟩]⟩
    Catalog.ofEnumeration terms = .ok catalog ∧
      ∃ blocks, ((generateBlocks .reql catalog).run.runOn .bare).result = .ok blocks ∧
        readNames? blocks.names = some ["ADD", "FILTER", "GET_ALL"] ∧
        readClasses? blocks.classes =
          some [("ADD", -24, "add"), ("FILTER", 39, "filter"), ("GET_ALL", 78, "get_all")] ∧
        readMethods? blocks.methods =
          some [("add", "ADD", .plain), ("filter", "FILTER", .fixedArity 2),
            ("get_all", "GET_ALL", .optionsTail)] := by
  intro terms catalog
  have accepted : Catalog.ofEnumeration terms = .ok catalog := by rfl
  have overrides : ∀ entry ∈ Tables.reql.names.entries, isMethodName entry.2 = true := by decide
  let blocks := Blocks.ofBindings 77 catalog (catalog.terms.map Tables.reql.binding)
  have generated : ((generateBlocks .reql catalog).run.runOn .bare).result = .ok blocks :=
    (congrArg Prod.fst (on_generateBlocks .reql catalog .bare)).trans (by rfl)
  have agree := (generateBlocks_agree accepted overrides generated).2.2.2 (by decide)
  exact ⟨accepted, blocks, generated, agree⟩

end Generator

end ReqlLua
