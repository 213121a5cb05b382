import ReqlLua.Number.Notation
import ReqlLua.Settings.Basic
import ReqlLua.Settings.KeyPath
import ReqlLua.Toml.Value

/-! Layers of settings. Each document is laid over the values of the ones before it: tables are
merged into what is there, all other values replace it. -/

namespace ReqlLua

inductive Scalar where
  | unit
  | boolean (value : Bool)
  | integer (value : Int)
  | number (value : Binary64)
  | string (text : String)
deriving DecidableEq

/-- A value with the name of the document it is from. Tables that were merged and lists that were
made for an index have no such name. -/
inductive Node where
  | scalar (origin : Option String) (value : Scalar)
  | list (origin : Option String) (items : List Node)
  | table (origin : Option String) (entries : List (String × Node))

namespace Node

def unit : Node := .scalar none .unit

mutual

def ofValue (origin : Option String) : Toml.Value → Node
  | .string text => .scalar origin (.string text)
  | .integer value => .scalar origin (.integer value)
  | .number value => .scalar origin (.number value)
  | .boolean value => .scalar origin (.boolean value)
  | .moment text => .scalar origin (.string text)
  | .array items => .list origin (ofValues origin items)
  | .table entries => .table origin (ofEntries origin entries)

def ofValues (origin : Option String) : List Toml.Value → List Node
  | [] => []
  | item :: rest => ofValue origin item :: ofValues origin rest

def ofEntries (origin : Option String) : List (String × Toml.Value) → List (String × Node)
  | [] => []
  | (name, value) :: rest => (name, ofValue origin value) :: ofEntries origin rest

end

/-- Puts a value in the place of the one that bears the name, or at the end. -/
def put (name : String) (node : Node) : List (String × Node) → List (String × Node)
  | [] => [(name, node)]
  | entry :: rest => if entry.1 = name then (name, node) :: rest else entry :: put name node rest

/-- What is there as a table; anything but a table gives way to an empty one. -/
def asTable : Option Node → Option String × List (String × Node)
  | some (.table origin entries) => (origin, entries)
  | _ => (none, [])

/-- What is there as a list; anything but a list gives way to an empty one. -/
def asList : Option Node → Option String × List Node
  | some (.list origin items) => (origin, items)
  | _ => (none, [])

mutual

/-- Lays a value over what is there. A table without entries changes nothing. -/
def lay (existing : Option Node) : Node → Node
  | .table _ entries => layEntries (existing.getD (.table none [])) entries
  | node => node

def layEntries (existing : Node) : List (String × Node) → Node
  | [] => existing
  | (name, node) :: rest =>
    let (origin, entries) := asTable (some existing)
    let key := Text.lowercase name
    layEntries (.table origin (put key (lay (entries.lookup key) node) entries)) rest

end

/-- A place in a list, counted from the end if it is negative. -/
def position (index : Int) (size : Nat) : Nat :=
  if 0 ≤ index then index.toNat else size - index.natAbs

def padTo (size : Nat) (items : List Node) : List Node :=
  items ++ List.replicate (size - items.length) unit

/-- Lays a value over what a path leads to, making tables and lists on the way. The place of a list
is given to the value as it is. -/
def layAt (node : Node) : List KeyStep → Option Node → Node
  | [], existing => lay existing node
  | .member name :: steps, existing =>
    let (origin, entries) := asTable existing
    .table origin (put name (layAt node steps (entries.lookup name)) entries)
  | .element index :: steps, existing =>
    let (origin, items) := asList existing
    let place := position index items.length
    let padded := padTo (place + 1) items
    let item := if steps.isEmpty then node else layAt node steps padded[place]?
    .list origin (padded.set place item)

end Node

/-- The values laid down so far, by name. -/
abbrev Layers := List (String × Node)

namespace Layers

/-- One entry of a document, whose key may be a path. -/
def layEntry (layers : Layers) (key : String) (node : Node) : Layers :=
  let path := KeyPath.ofText key
  Node.put path.root (node.layAt path.steps (layers.lookup path.root)) layers

/-- Lays a document over the layers. -/
def layDocument (layers : Layers) (origin : Option String) (document : Toml.Document) : Layers :=
  document.foldl (fun layers entry => layEntry layers entry.1 (Node.ofValue origin entry.2)) layers

/-- The lowest layer. -/
def ofSettings (settings : Settings) : Layers :=
  [("protodef", .scalar none (.string settings.protodef)),
   ("src_dir", .scalar none (.string settings.srcDir)),
   ("templates", .list none (settings.templates.map fun name => .scalar none (.string name))),
   ("wrap_width", .scalar none (.integer settings.wrapWidth))]

def base : Layers := ofSettings Settings.default

end Layers

end ReqlLua
