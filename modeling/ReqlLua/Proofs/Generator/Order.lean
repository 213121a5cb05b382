import ReqlLua.Proofs.Generator.Prepare
import ReqlLua.Proofs.Protocol.RoundTrip

/-! The order in which a document lists the entries of its enumerations makes no difference, neither to the
definition that is read from it nor to anything that is made of the definition. -/

namespace ReqlLua.Generator

/-! ### What is made of a document -/

/-- The definition in a text. -/
def definitionOf (source : String) : Attempt Definition :=
  Attempt.ofExcept (.document none) (Definition.ofJson source)

def catalogOf (source : String) : Attempt Catalog := do
  buildCatalog (← definitionOf source).term

def bindingsOf (tables : Tables) (source : String) : Attempt (List Binding) := do
  planBindings tables (← catalogOf source)

def blocksOf (tables : Tables) (source : String) : Attempt Lua.Blocks := do
  generateBlocks tables (← catalogOf source)

def generatorOf (settings : Settings) (tables : Tables) (source : String) : Attempt Generator := do
  ofTables settings (← definitionOf source) tables

/-- A generator gives a text to each of the six keys. -/
def templateKeys : List String :=
  ["AstClasses", "AstMethods", "AstNames", "Query", "Response", "Term"]

theorem get?_of_templateKeys {settings : Settings} {tables : Tables} {source : String}
    {generator : Generator} {home : Location} {tree left : FileTree home}
    (made : Attempt.on (generatorOf settings tables source) tree = (.ok generator, left)) :
    ∀ key ∈ templateKeys, ∃ text, generator.substitutions.get? key = some text := by
  obtain ⟨definition, between, -, made⟩ := Attempt.of_on_bind_ok made
  obtain ⟨-, catalog, blocks, -, -, rfl⟩ := on_ofTables_ok.1 made
  intro key member
  simp only [templateKeys, List.mem_cons, List.not_mem_nil, or_false] at member
  rcases member with rfl | rfl | rfl | rfl | rfl | rfl
  · exact ⟨blocks.classes, get?_substitutionsOf.2 (by simp)⟩
  · exact ⟨blocks.methods, get?_substitutionsOf.2 (by simp)⟩
  · exact ⟨blocks.names, get?_substitutionsOf.2 (by simp)⟩
  · exact ⟨definition.query.lua, get?_substitutionsOf.2 (by simp)⟩
  · exact ⟨definition.response.lua, get?_substitutionsOf.2 (by simp)⟩
  · exact ⟨definition.term.lua, get?_substitutionsOf.2 (by simp)⟩

/-- Documents that list the same entries in different orders are read as one definition, in which exactly
these entries are found. At every stage the same is made of both, or the same failure met. -/
theorem order_is_immaterial {query query' response response' term term' : List (String × Int64)}
    (distinctQuery : (query.map (·.1)).Nodup) (distinctResponse : (response.map (·.1)).Nodup)
    (distinctTerm : (term.map (·.1)).Nodup) (sameQuery : query.Perm query')
    (sameResponse : response.Perm response') (sameTerm : term.Perm term') {first second : String}
    (listed : Definition.ListedText query response term first.toList)
    (listed' : Definition.ListedText query' response' term' second.toList) :
    (∃ definition, Definition.ofJson first = .ok definition ∧
      Definition.ofJson second = .ok definition ∧ ∀ name tag,
        (definition.query.get? name = some tag ↔ (name, tag) ∈ query) ∧
        (definition.response.get? name = some tag ↔ (name, tag) ∈ response) ∧
        (definition.term.get? name = some tag ↔ (name, tag) ∈ term)) ∧
    catalogOf first = catalogOf second ∧
    ∀ tables, bindingsOf tables first = bindingsOf tables second ∧
      blocksOf tables first = blocksOf tables second ∧
      ∀ settings, generatorOf settings tables first = generatorOf settings tables second ∧
        ∀ {home : Location} (tree : FileTree home) generator generator' left left',
          Attempt.on (generatorOf settings tables first) tree = (.ok generator, left) →
          Attempt.on (generatorOf settings tables second) tree = (.ok generator', left') →
          ∀ key ∈ templateKeys, ∃ text, generator.substitutions.get? key = some text ∧
            generator'.substitutions.get? key = some text := by
  have distinctQuery' := (sameQuery.map (·.1)).nodup_iff.1 distinctQuery
  have distinctResponse' := (sameResponse.map (·.1)).nodup_iff.1 distinctResponse
  have distinctTerm' := (sameTerm.map (·.1)).nodup_iff.1 distinctTerm
  have read := Definition.ofJson_of_written
    (Definition.definitionText_of_listed distinctQuery distinctResponse distinctTerm listed)
  have read' := Definition.ofJson_of_written
    (Definition.definitionText_of_listed distinctQuery' distinctResponse' distinctTerm' listed')
  rw [← Dictionary.ofList_perm distinctQuery sameQuery,
    ← Dictionary.ofList_perm distinctResponse sameResponse,
    ← Dictionary.ofList_perm distinctTerm sameTerm] at read'
  have same : definitionOf first = definitionOf second := by
    rw [definitionOf, definitionOf, read, read']
  have sameCatalog : catalogOf first = catalogOf second := by rw [catalogOf, catalogOf, same]
  refine ⟨⟨_, read, read', fun name tag => ⟨Dictionary.get?_ofList distinctQuery,
    Dictionary.get?_ofList distinctResponse, Dictionary.get?_ofList distinctTerm⟩⟩, sameCatalog, ?_⟩
  intro tables
  refine ⟨by rw [bindingsOf, bindingsOf, sameCatalog], by rw [blocksOf, blocksOf, sameCatalog], ?_⟩
  intro settings
  have sameGenerator : generatorOf settings tables first = generatorOf settings tables second := by
    rw [generatorOf, generatorOf, same]
  refine ⟨sameGenerator, ?_⟩
  intro home tree generator generator' left left' made made' key member
  rw [sameGenerator, made'] at made
  cases made
  obtain ⟨text, found⟩ := get?_of_templateKeys made' key member
  exact ⟨text, found, found⟩

/-- Two terms with one tag are reported in the order of their names, whichever is listed first. -/
theorem order_is_immaterial_sharedTag :
    let first := Definition.listedJson [("START", 1), ("STOP", 3)] [] [("SUB", 25), ("ADD", 25)]
    let second := Definition.listedJson [("STOP", 3), ("START", 1)] [] [("ADD", 25), ("SUB", 25)]
    first ≠ second ∧ catalogOf first = catalogOf second ∧
      ∀ {home : Location} (tree : FileTree home), Attempt.on (catalogOf second) tree =
        (.error (.catalog (.sharedTag 25 "ADD" "SUB")), tree) := by
  intro first second
  have differ : first ≠ second := by decide +kernel
  have listed : Definition.ListedText _ _ _ first.toList :=
    Definition.listedText_listedJson [("START", 1), ("STOP", 3)] [] [("SUB", 25), ("ADD", 25)]
  have listed' : Definition.ListedText _ _ _ second.toList :=
    Definition.listedText_listedJson [("STOP", 3), ("START", 1)] [] [("ADD", 25), ("SUB", 25)]
  have immaterial := order_is_immaterial (by decide) (by decide) (by decide)
    (.swap ("STOP", 3) ("START", 1) []) (.refl []) (.swap ("ADD", 25) ("SUB", 25) []) listed listed'
  have read := Definition.ofJson_of_written
    (Definition.definitionText_of_listed (by decide) (by decide) (by decide) listed')
  refine ⟨differ, immaterial.2.1, ?_⟩
  intro home tree
  rw [catalogOf, definitionOf, read]
  rfl

end ReqlLua.Generator
