import ReqlLua.Lua.Blocks
import ReqlLua.Protocol.Document
import ReqlLua.Attempt

/-! Generators: settings together with the texts that go into the templates. A run turns the
templates into sources in the order of the settings and ends with the first that fails. -/

namespace ReqlLua

structure Generator where
  settings : Settings
  substitutions : Substitutions

namespace Generator

/-- The three blocks of code and the three enumerations, under the names that templates use. -/
def substitutionsOf (definition : Definition) (blocks : Lua.Blocks) : Substitutions :=
  Dictionary.ofList
    [("AstClasses", blocks.classes), ("AstMethods", blocks.methods), ("AstNames", blocks.names),
     ("Query", Enumeration.lua definition.query), ("Response", Enumeration.lua definition.response),
     ("Term", Enumeration.lua definition.term)]

/-- The definition in a file. -/
def loadDefinition (path : String) : Attempt Definition := do
  let source ← Attempt.orFail (.file path) (Job.readsText path)
  Attempt.ofExcept (.document (some path)) (Definition.ofJson source)

def buildCatalog (terms : Enumeration) : Attempt Catalog := do
  let catalog ← Attempt.ofExcept .catalog (Catalog.ofEnumeration terms)
  Attempt.report (.catalogLoaded catalog.size (terms.size - catalog.size))
  return catalog

/-- The bindings of a catalog. Terms listed with both kinds of wrapper are reported. -/
def planBindings (tables : Tables) (catalog : Catalog) : Attempt (List Binding) := do
  let bindings ← Attempt.ofExcept .naming (Binding.ofCatalog tables catalog)
  (tables.dualListed catalog).forM fun identifier => Attempt.report (.dualListed identifier)
  return bindings

def generateBlocks (tables : Tables) (catalog : Catalog) : Attempt Lua.Blocks := do
  if catalog.terms.isEmpty then Attempt.report .catalogEmpty
  let bindings ← planBindings tables catalog
  let blocks := Lua.Blocks.ofBindings tables.wrapWidth catalog bindings
  Attempt.report (.blocksGenerated bindings.length blocks.classes.utf8ByteSize
    blocks.methods.utf8ByteSize blocks.names.utf8ByteSize)
  return blocks

/-- The generator for a definition and tables of one's own. -/
def ofTables (settings : Settings) (definition : Definition) (tables : Tables) : Attempt Generator := do
  let catalog ← buildCatalog definition.term
  let blocks ← generateBlocks tables catalog
  Attempt.report (.generatorReady catalog.size)
  return ⟨settings, substitutionsOf definition blocks⟩

/-- The generator for the definition that the settings name. -/
def prepare (settings : Settings) : Attempt Generator := do
  let definition ← loadDefinition settings.protodef
  Attempt.report (.definitionLoaded settings.protodef)
  ofTables settings definition { Tables.reql with wrapWidth := settings.wrapWidth }

/-- Writes a file by way of a temporary one beside it, which is gone in the end. The file itself
changes in one step or not at all. -/
def replaceFile (path text : String) : Attempt Unit := do
  let temporary := path ++ ".tmp"
  let clearing (target : String) (step : Job (Except FileFault Unit)) : Attempt Unit :=
    Attempt.orFail (.file target) do
      match ← step with
      | .ok () => return .ok ()
      | .error fault =>
        let _ ← Job.removes temporary
        return .error fault
  clearing temporary (Job.writes temporary text)
  clearing path (Job.renames temporary path)

/-- The source that a template turns into. -/
def render (generator : Generator) (name : String) : Attempt String := do
  let path := generator.settings.templatePath name
  let source ← Attempt.orFail (.file path) (Job.readsText path)
  let template := Template.ofSource source
  Attempt.report (.templateRead name template.pieces.length)
  Attempt.ofExcept .unresolved (template.render generator.substitutions)

/-- Turns a template into a source file, whose path is the result. -/
def process (generator : Generator) (name : String) : Attempt String :=
  ExceptT.mk <| Job.within name <| ExceptT.run do
    let source ← generator.render name
    let path := generator.settings.outputPath name
    replaceFile path source
    Attempt.report (.sourceWritten path source.utf8ByteSize)
    return path

/-- Processes templates in turn. -/
def processAll (generator : Generator) : List String → Attempt (List String)
  | [] => return []
  | name :: rest => do
    let path ← generator.process name
    let paths ← generator.processAll rest
    return path :: paths

def run (generator : Generator) : Attempt (List String) :=
  generator.processAll generator.settings.templates

end Generator

end ReqlLua
