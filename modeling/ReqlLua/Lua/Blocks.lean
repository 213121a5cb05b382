import ReqlLua.Binding.Basic
import ReqlLua.Lua.Quoted

/-! The three blocks of Lua that a catalog is turned into: class declarations, method table
entries and forward declarations. -/

namespace ReqlLua.Lua

def classLine (binding : Binding) : String :=
  binding.term.identifier ++ " = ast(" ++ quoted binding.term.identifier ++ ", \x7btt = " ++
    toString binding.term.tag.toInt ++ ", st = " ++ quoted binding.method ++ "\x7d)"

/-- One line for each binding. -/
def classes (bindings : List Binding) : String :=
  "\n".intercalate (bindings.map classLine)

/-- The parameters `arg0`, `arg1`, … before the options. -/
def arguments (count : Nat) : List String :=
  (List.range count).map fun index => "arg" ++ toString index

def function (parameters call identifier : String) : String :=
  "function(" ++ parameters ++ ") return " ++ identifier ++ "(" ++ call ++ ") end"

def wrapperFunction (identifier : String) : Wrapper → String
  | .plain => function "..." "\x7b\x7d, ..." identifier
  | .optionsTail => function "..." "get_opts(...)" identifier
  | .fixedArity count =>
    function (", ".intercalate (arguments count ++ ["opts"]))
      (", ".intercalate ("opts" :: arguments count)) identifier

def methodEntry (binding : Binding) : String :=
  binding.method ++ " = " ++ wrapperFunction binding.term.identifier binding.wrapper

def methods (bindings : List Binding) : String :=
  ",\n  ".intercalate (bindings.map methodEntry)

/-- Cuts names into lines. `line` holds the names of the unfinished line, the last one first, and
`length` is its length in bytes; a name joins it while the line stays shorter than `width`. -/
def cut (width : Nat) (line : List String) (length : Nat) : List String → List (List String)
  | [] => [line.reverse]
  | name :: rest =>
    let joined := length + ", ".utf8ByteSize + name.utf8ByteSize
    if joined < width then cut width (name :: line) joined rest
    else line.reverse :: cut width [name] ("local ".utf8ByteSize + name.utf8ByteSize) rest

/-- The names of each line. A name that is too long for any line has a line of its own. -/
def nameGroups (width : Nat) : List String → List (List String)
  | [] => []
  | name :: rest => cut width [name] ("local ".utf8ByteSize + name.utf8ByteSize) rest

def declaration (names : List String) : String := "local " ++ ", ".intercalate names

/-- The forward declarations of all names in order. -/
def names (width : Nat) (identifiers : List String) : String :=
  "\n".intercalate ((nameGroups width identifiers).map declaration)

structure Blocks where
  classes : String
  methods : String
  names : String
deriving DecidableEq

def Blocks.ofBindings (wrapWidth : Nat) (catalog : Catalog) (bindings : List Binding) : Blocks :=
  ⟨Lua.classes bindings, Lua.methods bindings, Lua.names wrapWidth catalog.identifiers⟩

/-- All three blocks of a catalog, unless its terms cannot be named. -/
def Blocks.generate (tables : Tables) (catalog : Catalog) : Except NamingFault Blocks :=
  (Binding.ofCatalog tables catalog).map (ofBindings tables.wrapWidth catalog)

end ReqlLua.Lua
