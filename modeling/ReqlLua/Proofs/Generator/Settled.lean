import ReqlLua.Proofs.Lua.Agreement
import ReqlLua.Proofs.Template.Settled

/-! Sources without markers. The blocks hold no opening bracket and no hyphen at either end, so like all
texts of this kind they can be put into a template without making a marker of it. -/

namespace ReqlLua

namespace Lua

/-! ### Ends of texts -/

/-- There is a first and a last character, and neither is a hyphen. -/
structure PlainEnds (text : String) : Prop where
  front : ∃ c ∈ text.toList.head?, c ≠ '-'
  back : ∃ c ∈ text.toList.getLast?, c ≠ '-'

theorem PlainEnds.join {first last : String} (begins : PlainEnds first) (ends : PlainEnds last)
    (middle : String) : PlainEnds (first ++ middle ++ last) := by
  constructor
  case front =>
    obtain ⟨c, front, notMinus⟩ := begins.front
    refine ⟨c, ?_, notMinus⟩
    rw [String.toList_append, String.toList_append, List.append_assoc, List.head?_append,
      Option.mem_def, Option.or_eq_some_iff]
    exact .inl front
  case back =>
    obtain ⟨c, back, notMinus⟩ := ends.back
    refine ⟨c, ?_, notMinus⟩
    rw [String.toList_append, List.getLast?_append, Option.mem_def, Option.or_eq_some_iff]
    exact .inl back

theorem PlainEnds.intercalate {separator : String} {texts : List String} (nonempty : texts ≠ [])
    (ends : ∀ text ∈ texts, PlainEnds text) : PlainEnds (separator.intercalate texts) := by
  induction texts with
  | nil => exact absurd rfl nonempty
  | cons text later ih =>
    obtain ⟨endsText, endsLater⟩ := List.forall_mem_cons.1 ends
    cases later with
    | nil => rwa [String.intercalate_singleton]
    | cons next others =>
      rw [String.intercalate_cons_cons]
      exact endsText.join (ih (List.cons_ne_nil next others) endsLater) separator

theorem IsWord.plainEnds {text : String} (word : IsWord text) (nonempty : text ≠ "") :
    PlainEnds text := by
  have notMinus : ∀ c ∈ text.toList, c ≠ '-' := by
    rintro c member rfl
    exact word.not_mem (by decide) member
  have someChar : text.toList ≠ [] := fun empty => nonempty (String.toList_eq_nil_iff.1 empty)
  constructor
  case front =>
    exact ⟨_, List.head?_eq_some_head someChar, notMinus _ (List.head_mem someChar)⟩
  case back =>
    exact ⟨_, List.getLast?_eq_some_getLast someChar, notMinus _ (List.getLast_mem someChar)⟩

theorem PlainEnds.inert {text : String} (ends : PlainEnds text) (noBracket : '[' ∉ text.toList) :
    Template.Inert text := by
  have notBracket : ∀ c ∈ text.toList, c ≠ '[' := fun c member same => noBracket (same ▸ member)
  obtain ⟨first, front, notMinus⟩ := ends.front
  obtain ⟨last, back, notMinus'⟩ := ends.back
  constructor
  case nonempty =>
    rintro rfl
    cases front
  case noOpener =>
    exact fun opened => noBracket (opened.subset (by decide))
  case front =>
    intro c member
    obtain rfl := Option.mem_unique front member
    exact ⟨notMinus, notBracket _ (List.mem_of_head? member)⟩
  case back =>
    intro c member
    obtain rfl := Option.mem_unique back member
    exact ⟨notMinus', notBracket _ (List.mem_of_getLast? member)⟩

/-! ### Blocks -/

/-- Texts side by side, none of which begins or ends with a hyphen or holds a bracket. -/
theorem inert_intercalate {separator : String} {texts : List String} (nonempty : texts ≠ [])
    (noBracket : '[' ∉ separator.toList) (ends : ∀ text ∈ texts, PlainEnds text)
    (free : ∀ text ∈ texts, '[' ∉ text.toList) : Template.Inert (separator.intercalate texts) :=
  (PlainEnds.intercalate nonempty ends).inert (not_mem_joined noBracket free)

theorem inert_classes {bindings : List Binding} (nonempty : bindings ≠ [])
    (plain : ∀ binding ∈ bindings, Binding.Plain binding)
    (ends : ∀ binding ∈ bindings, PlainEnds binding.term.identifier) :
    Template.Inert (classes bindings) := by
  have someLine : bindings.map classLine ≠ [] := fun empty => nonempty (List.map_eq_nil_iff.1 empty)
  refine inert_intercalate someLine (by decide) ?_ ?_
  · refine List.forall_mem_map.2 fun binding member => ?_
    have closing : PlainEnds ")" := ⟨⟨')', rfl, by decide⟩, ⟨')', rfl, by decide⟩⟩
    have line := (ends binding member).join closing (" = ast(" ++ quoted binding.term.identifier ++
      ", \x7btt = " ++ toString binding.term.tag.toInt ++ ", st = " ++ quoted binding.method ++ "\x7d")
    simp only [classLine, String.append_assoc] at line ⊢
    exact line
  · refine List.forall_mem_map.2 fun binding member => ?_
    have words := plain binding member
    exact not_mem_classLine words.identifier (by decide)
      (not_mem_quoted words.method (by decide) (by decide))

theorem inert_methods {bindings : List Binding} (nonempty : bindings ≠ [])
    (plain : ∀ binding ∈ bindings, Binding.Plain binding)
    (ends : ∀ binding ∈ bindings, PlainEnds binding.method) : Template.Inert (methods bindings) := by
  have someEntry : bindings.map methodEntry ≠ [] := fun empty =>
    nonempty (List.map_eq_nil_iff.1 empty)
  refine inert_intercalate someEntry (by decide) ?_ ?_
  · refine List.forall_mem_map.2 fun binding member => ?_
    have closing : PlainEnds ") end" := ⟨⟨')', rfl, by decide⟩, ⟨'d', rfl, by decide⟩⟩
    have entry := (ends binding member).join closing (" = " ++ "function(" ++
      ", ".intercalate (wrapperLists binding.wrapper).1 ++ ") return " ++ binding.term.identifier ++
        "(" ++ ", ".intercalate (wrapperLists binding.wrapper).2)
    simp only [methodEntry, wrapperFunction_eq, function, String.append_assoc] at entry ⊢
    exact entry
  · refine List.forall_mem_map.2 fun binding member => ?_
    exact not_mem_methodEntry (plain binding member) (by decide)

theorem inert_names (width : Nat) {identifiers : List String} (nonempty : identifiers ≠ [])
    (words : ∀ identifier ∈ identifiers, IsWord identifier)
    (ends : ∀ identifier ∈ identifiers, PlainEnds identifier) :
    Template.Inert (names width identifiers) := by
  have someLine : (nameGroups width identifiers).map declaration ≠ [] := fun empty =>
    nameGroups_ne_nil nonempty (List.map_eq_nil_iff.1 empty)
  refine inert_intercalate someLine (by decide) ?_ ?_
  · refine List.forall_mem_map.2 fun group member => ?_
    have lead : PlainEnds "local" := ⟨⟨'l', rfl, by decide⟩, ⟨'l', rfl, by decide⟩⟩
    have joined : PlainEnds (", ".intercalate group) :=
      PlainEnds.intercalate (ne_nil_of_mem_nameGroups member) fun name among =>
        ends name (mem_of_mem_nameGroups member among)
    exact lead.join joined " "
  · refine List.forall_mem_map.2 fun group member => ?_
    exact not_mem_declaration (by decide) fun name among =>
      (words name (mem_of_mem_nameGroups member among)).not_mem (by decide)

end Lua

namespace Generator

open Lua MethodNames Template

theorem plainEnds_identifier {identifier : String} (wellFormed : Catalog.isIdentifier identifier = true) :
    PlainEnds identifier := by
  refine (Catalog.isWord_of_isIdentifier wellFormed).plainEnds ?_
  rintro rfl
  cases wellFormed

theorem plainEnds_method {name : String} (wellFormed : isMethodName name = true) :
    PlainEnds name := by
  refine (isWord_of_isMethodName wellFormed).plainEnds ?_
  rintro rfl
  cases wellFormed

/-- Whatever the width, and whatever the tables as long as they give method names. -/
theorem inert_blocks {enumeration : Enumeration} {catalog : Catalog}
    (accepted : Catalog.ofEnumeration enumeration = .ok catalog) (nonempty : catalog.terms ≠ [])
    (tables : Tables) (overrides : ∀ entry ∈ tables.names.entries, isMethodName entry.2 = true)
    {home : Location} {tree : FileTree home} {blocks : Blocks}
    (generated : ((generateBlocks tables catalog).run.runOn tree).result = .ok blocks) :
    Inert blocks.classes ∧ Inert blocks.methods ∧ Inert blocks.names := by
  have plain := plain_bindings accepted overrides
  have identifiers := Catalog.isIdentifier_of_term accepted
  have someBinding : catalog.terms.map tables.binding ≠ [] := fun empty =>
    nonempty (List.map_eq_nil_iff.1 empty)
  have someIdentifier : catalog.identifiers ≠ [] := fun empty =>
    nonempty (List.map_eq_nil_iff.1 empty)
  rw [blocks_of_generateBlocks generated]
  refine ⟨inert_classes someBinding plain ?_, inert_methods someBinding plain ?_,
    inert_names tables.wrapWidth someIdentifier ?_ ?_⟩
  · exact List.forall_mem_map.2 fun term among => plainEnds_identifier (identifiers term among)
  · exact List.forall_mem_map.2 fun term among =>
      plainEnds_method (isMethodName_nameOf overrides (identifiers term among))
  · exact List.forall_mem_map.2 fun term among =>
      Catalog.isWord_of_isIdentifier (identifiers term among)
  · exact List.forall_mem_map.2 fun term among => plainEnds_identifier (identifiers term among)

/-- Where the texts put in for markers are inert, no marker is left in what comes out, and splicing it again with
whatever texts changes nothing. The blocks of a catalog with terms are inert. -/
theorem splice_settles :
    (∀ (source : String) (substitutions : Substitutions) (output : String),
      (∀ piece ∈ (ofSource source).pieces, ∀ text,
        substitutions.get? piece.key = some text → Inert text) →
      splice source substitutions = .ok output →
      (ofSource output).pieces = [] ∧ ∀ others, splice output others = .ok output) ∧
    ∀ (enumeration : Enumeration) (catalog : Catalog) (width : Nat) {home : Location}
      (tree : FileTree home) (blocks : Blocks),
      Catalog.ofEnumeration enumeration = .ok catalog → catalog.terms ≠ [] →
      ((generateBlocks { Tables.reql with wrapWidth := width } catalog).run.runOn tree).result =
        .ok blocks →
      Inert blocks.classes ∧ Inert blocks.methods ∧ Inert blocks.names := by
  constructor
  · intro source substitutions output inert succeeded
    exact splice_unmarked (unmarked_output inert succeeded)
  · intro enumeration catalog width home tree blocks accepted nonempty generated
    have overrides : ∀ entry ∈ Tables.reql.names.entries, isMethodName entry.2 = true := by decide
    exact inert_blocks accepted nonempty { Tables.reql with wrapWidth := width } overrides generated

/-- An opener that its line leaves open, in front of a block whose lines go where the marker was. -/
theorem splice_settles_openLine :
    let catalog : Catalog := ⟨[⟨"ADD", 24⟩, ⟨"SUB", 25⟩]⟩
    Catalog.ofEnumeration (.ofList [("ADD", 24), ("SUB", 25)]) = .ok catalog ∧
      ∃ blocks,
        ((generateBlocks { Tables.reql with wrapWidth := 12 } catalog).run.runOn .bare).result =
          .ok blocks ∧
        (Inert blocks.classes ∧ Inert blocks.methods ∧ Inert blocks.names) ∧
        let output := "-- [--[[\nlocal ADD\nlocal SUB]] --[[]]"
        splice "-- [--[[\n--[[ AstNames ]]]] --[[]]" (.ofList [("AstNames", blocks.names)]) = .ok output ∧
          (ofSource output).pieces = [] ∧ ∀ others, splice output others = .ok output := by
  intro catalog
  let tables : Tables := { Tables.reql with wrapWidth := 12 }
  let blocks := Blocks.ofBindings 12 catalog (catalog.terms.map tables.binding)
  have accepted : Catalog.ofEnumeration (.ofList [("ADD", 24), ("SUB", 25)]) = .ok catalog := by rfl
  have generated : ((generateBlocks tables catalog).run.runOn .bare).result = .ok blocks :=
    (congrArg Prod.fst (on_generateBlocks tables catalog .bare)).trans (by rfl)
  have inert := splice_settles.2 _ catalog 12 .bare blocks accepted (by decide) generated
  have printed : blocks.names = "local ADD\nlocal SUB" := by rfl
  have spliced : splice "-- [--[[\n--[[ AstNames ]]]] --[[]]" (.ofList [("AstNames", blocks.names)]) =
      .ok "-- [--[[\nlocal ADD\nlocal SUB]] --[[]]" := by
    rw [printed]
    rfl
  refine ⟨accepted, blocks, generated, inert, spliced, splice_settles.1 _ _ _ ?_ spliced⟩
  have pieces : (ofSource "-- [--[[\n--[[ AstNames ]]]] --[[]]").pieces =
      [⟨"-- [--[[\n", " AstNames ", 9⟩] := by rfl
  have key : Piece.key ⟨"-- [--[[\n", " AstNames ", 9⟩ = "AstNames" := by rfl
  have only (text : String) :
      (Dictionary.ofList [("AstNames", text)]).get? "AstNames" = some text :=
    (Dictionary.get?_ofList (by simp)).2 (by simp)
  rw [pieces, List.forall_mem_singleton, key, only]
  rintro _ ⟨⟩
  exact inert.2.2

end Generator

end ReqlLua
