import ReqlLua.Generator
import ReqlLua.Proofs.Dictionary
import ReqlLua.Proofs.Job

/-! Preparing a generator reads the protocol definition and changes no file. -/

namespace ReqlLua

namespace Generator

open Lua

variable {home : Location}

theorem on_readsText_ok {wrap : FileFault → Failure} {path text : String} {tree left : FileTree home} :
    Attempt.on (Attempt.orFail wrap (Job.readsText path)) tree = (.ok text, left) ↔
      tree = left ∧ tree.read path = .ok text.toUTF8 := by
  have quiet : ((Job.readsText path).runOn tree).tree = tree := rfl
  rw [Attempt.on_orFail, quiet, ← Job.readsText_ok_iff]
  cases ((Job.readsText path).runOn tree).result with
  | error fault =>
    constructor
    · intro same
      cases congrArg Prod.fst same
    · rintro ⟨-, same⟩
      cases same
  | ok found =>
    constructor
    · intro same
      cases same
      exact ⟨rfl, rfl⟩
    · rintro ⟨rfl, same⟩
      cases same
      rfl

/-- The reports on the way do not count. -/
theorem on_planBindings (tables : Tables) (catalog : Catalog) (tree : FileTree home) :
    Attempt.on (planBindings tables catalog) tree =
      ((Binding.ofCatalog tables catalog).mapError .naming, tree) := by
  rw [planBindings, Attempt.on_bind, Attempt.on_ofExcept]
  cases Binding.ofCatalog tables catalog with
  | error fault => rfl
  | ok bindings =>
    have reported := Attempt.on_forM (fun identifier => Attempt.report (.dualListed identifier))
      tree (fun _ => rfl) (tables.dualListed catalog)
    exact Attempt.on_bind_of_ok reported _

theorem on_generateBlocks (tables : Tables) (catalog : Catalog) (tree : FileTree home) :
    Attempt.on (generateBlocks tables catalog) tree =
      ((Blocks.generate tables catalog).mapError .naming, tree) := by
  have finished : Attempt.on (planBindings tables catalog >>= fun bindings => do
      let blocks := Blocks.ofBindings tables.wrapWidth catalog bindings
      Attempt.report (.blocksGenerated bindings.length blocks.classes.utf8ByteSize
        blocks.methods.utf8ByteSize blocks.names.utf8ByteSize)
      return blocks) tree = ((Blocks.generate tables catalog).mapError .naming, tree) := by
    rw [Attempt.on_bind, on_planBindings, Blocks.generate]
    cases Binding.ofCatalog tables catalog <;> rfl
  rw [generateBlocks]
  split
  · exact (Attempt.on_bind_of_ok (Attempt.on_report _ tree) _).trans finished
  · exact finished

/-- The texts of all six keys. -/
theorem get?_substitutionsOf {definition : Definition} {blocks : Blocks} {key text : String} :
    (substitutionsOf definition blocks).get? key = some text ↔
      (key, text) ∈
        [("AstClasses", blocks.classes), ("AstMethods", blocks.methods), ("AstNames", blocks.names),
         ("Query", definition.query.lua), ("Response", definition.response.lua),
         ("Term", definition.term.lua)] := by
  have distinct : ["AstClasses", "AstMethods", "AstNames", "Query", "Response", "Term"].Nodup := by
    decide
  refine Dictionary.get?_ofList ?_
  exact distinct

theorem on_ofTables (settings : Settings) (definition : Definition) (tables : Tables)
    (tree : FileTree home) :
    Attempt.on (ofTables settings definition tables) tree =
      match Catalog.ofEnumeration definition.term with
      | .error fault => (.error (.catalog fault), tree)
      | .ok catalog =>
        match Blocks.generate tables catalog with
        | .error fault => (.error (.naming fault), tree)
        | .ok blocks => (.ok ⟨settings, substitutionsOf definition blocks⟩, tree) := by
  have built : Attempt.on (buildCatalog definition.term) tree =
      ((Catalog.ofEnumeration definition.term).mapError .catalog, tree) := by
    rw [buildCatalog, Attempt.on_bind, Attempt.on_ofExcept]
    cases Catalog.ofEnumeration definition.term <;> rfl
  unfold ofTables
  cases listed : Catalog.ofEnumeration definition.term with
  | error fault =>
    rw [Attempt.on_bind, built, listed]
    rfl
  | ok catalog =>
    rw [listed] at built
    rw [Attempt.on_bind_of_ok built, Attempt.on_bind, on_generateBlocks]
    dsimp only
    cases Blocks.generate tables catalog <;> rfl

theorem on_ofTables_ok {settings : Settings} {definition : Definition} {tables : Tables}
    {generator : Generator} {tree left : FileTree home} :
    Attempt.on (ofTables settings definition tables) tree = (.ok generator, left) ↔
      tree = left ∧ ∃ catalog blocks, Catalog.ofEnumeration definition.term = .ok catalog ∧
        Blocks.generate tables catalog = .ok blocks ∧
        generator = ⟨settings, substitutionsOf definition blocks⟩ := by
  rw [on_ofTables]
  constructor
  · intro made
    split at made
    · cases made
    · next catalog listed =>
      split at made
      · cases made
      · next blocks generated =>
        cases made
        exact ⟨rfl, catalog, blocks, listed, generated, rfl⟩
  · rintro ⟨rfl, catalog, blocks, listed, generated, rfl⟩
    rw [listed]
    simp only [generated]

theorem on_loadDefinition_ok {path : String} {definition : Definition} {tree left : FileTree home} :
    Attempt.on (loadDefinition path) tree = (.ok definition, left) ↔
      tree = left ∧ ∃ source : String, tree.read path = .ok source.toUTF8 ∧
        Definition.ofJson source = .ok definition := by
  unfold loadDefinition
  constructor
  · intro loaded
    obtain ⟨source, between, read, decoded⟩ := Attempt.of_on_bind_ok loaded
    obtain ⟨rfl, held⟩ := on_readsText_ok.1 read
    rw [Attempt.on_ofExcept] at decoded
    cases found : Definition.ofJson source with
    | error fault =>
      rw [found] at decoded
      cases decoded
    | ok definition' =>
      rw [found] at decoded
      cases decoded
      exact ⟨rfl, source, held, found⟩
  · rintro ⟨rfl, source, held, found⟩
    rw [Attempt.on_bind_of_ok (on_readsText_ok.2 ⟨rfl, held⟩), Attempt.on_ofExcept, found]
    rfl

theorem on_prepare {settings : Settings} {definition : Definition} {tree left : FileTree home}
    (loaded : Attempt.on (loadDefinition settings.protodef) tree = (.ok definition, left)) :
    Attempt.on (prepare settings) tree =
      Attempt.on (ofTables settings definition
        { Tables.reql with wrapWidth := settings.wrapWidth }) left := by
  unfold prepare
  rw [Attempt.on_bind_of_ok loaded, Attempt.on_bind_of_ok (Attempt.on_report _ left)]

/-- A generator that is prepared has the settings it was prepared for. -/
theorem prepare_ok {settings : Settings} {generator : Generator} {tree left : FileTree home}
    (prepared : Attempt.on (prepare settings) tree = (.ok generator, left)) :
    tree = left ∧ generator.settings = settings ∧
      ∃ source : String, tree.read settings.protodef = .ok source.toUTF8 := by
  obtain ⟨definition, between, loaded, -⟩ := Attempt.of_on_bind_ok prepared
  obtain ⟨rfl, source, held, -⟩ := on_loadDefinition_ok.1 loaded
  rw [on_prepare loaded, on_ofTables_ok] at prepared
  obtain ⟨rfl, catalog, blocks, -, -, rfl⟩ := prepared
  exact ⟨rfl, rfl, source, held⟩

/-- Preparing a generator depends on the protocol definition alone. -/
theorem prepare_of_same_definition {settings : Settings} {generator : Generator}
    {tree left other : FileTree home}
    (prepared : Attempt.on (prepare settings) tree = (.ok generator, left))
    (same : other.read settings.protodef = tree.read settings.protodef) :
    Attempt.on (prepare settings) other = (.ok generator, other) := by
  obtain ⟨definition, between, loaded, -⟩ := Attempt.of_on_bind_ok prepared
  obtain ⟨rfl, source, held, decoded⟩ := on_loadDefinition_ok.1 loaded
  have loaded' := on_loadDefinition_ok.2 ⟨rfl, source, same.trans held, decoded⟩
  rw [on_prepare loaded, on_ofTables_ok] at prepared
  rw [on_prepare loaded', on_ofTables_ok]
  exact ⟨rfl, prepared.2⟩

end Generator

end ReqlLua
