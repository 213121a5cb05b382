import ReqlLua.Toml.Value

/-! Building tables from assignments. Every table is defined once: a table made by a header or as a
value cannot be added to through dotted keys, and one made by dotted keys only through them. -/

namespace ReqlLua.Toml

/-- How a table came to be: by a header of its own, as a parent in a header, or as a parent in a
dotted key. -/
inductive Origin where
  | header
  | parent
  | dotted
deriving DecidableEq

/-- What a name in an unfinished table stands for. -/
inductive Item where
  | value (value : Value)
  | table (origin : Origin) (entries : List (String × Item))
  | tables (last : List (String × Item)) (before : List (List (String × Item)))

abbrev Entries := List (String × Item)

namespace Entries

/-- Puts an item in the place of the one that bears the name, or at the end. -/
def put (name : String) (item : Item) : Entries → Entries
  | [] => [(name, item)]
  | entry :: rest => if entry.1 = name then (name, item) :: rest else entry :: put name item rest

/-- Changes the table that a path leads to. Tables that the path lacks are made; the last of an
array of tables stands for the array. -/
def change (dotted : Bool) (act : Origin → Entries → Option Entries) :
    List String → Origin → Entries → Option Entries
  | [], origin, entries => act origin entries
  | name :: path, _, entries =>
    match entries.lookup name with
    | none =>
      let origin := if dotted then .dotted else .parent
      (change dotted act path origin []).map fun inner => entries.put name (.table origin inner)
    | some (.value _) => none
    | some (.table origin inner) =>
      if dotted && origin = .header then none
      else (change dotted act path origin inner).map fun inner =>
        entries.put name (.table origin inner)
    | some (.tables last before) =>
      (change dotted act path .header last).map fun last => entries.put name (.tables last before)

/-- Adds an assignment under a dotted key. -/
def assign (path : List String) (name : String) (value : Value) (entries : Entries) :
    Option Entries :=
  change true (fun origin inner =>
    if (origin = .dotted) = path.isEmpty || (inner.lookup name).isSome then none
    else some (inner ++ [(name, .value value)])) path .header entries

end Entries

mutual

/-- A finished item as a value. -/
def Item.toValue : Item → Value
  | .value value => value
  | .table _ entries => .table (entryValues entries)
  | .tables last before => .array (tableValues before ++ [.table (entryValues last)])

def entryValues : List (String × Item) → List (String × Value)
  | [] => []
  | (name, item) :: rest => (name, item.toValue) :: entryValues rest

/-- The tables of an array, which are kept last first. -/
def tableValues : List (List (String × Item)) → List Value
  | [] => []
  | entries :: rest => tableValues rest ++ [.table (entryValues entries)]

end

/-! ### Documents -/

/-- A document as far as it has been read: the finished tables, and the one under construction
with the path of its header. -/
structure Draft where
  root : Entries
  path : List String
  isArray : Bool
  current : Entries

namespace Draft

def empty : Draft := ⟨[], [], false, []⟩

/-- Puts the table under construction in its place. -/
def close (draft : Draft) : Option Entries :=
  match draft.path.getLast? with
  | none => some draft.current
  | some name =>
    Entries.change false (fun _ entries =>
      match entries.lookup name, draft.isArray with
      | none, false => some (entries.put name (.table .header draft.current))
      | none, true => some (entries.put name (.tables draft.current []))
      | some (.tables last before), true =>
        some (entries.put name (.tables draft.current (last :: before)))
      | _, _ => none) draft.path.dropLast .header draft.root

/-- Starts the table of a header. What its name stands for already must be a table that only
served as a parent, or, for an array of tables, such an array. -/
def start (root : Entries) (path : List String) (isArray : Bool) : Option Draft :=
  match path.getLast? with
  | none => none
  | some name =>
    let parent := Entries.change false (fun _ entries => some entries) path.dropLast .header root
    let found := parent.bind fun grown => find? grown path
    match parent, found, isArray with
    | none, _, _ => none
    | some grown, none, _ => some ⟨grown, path, isArray, []⟩
    | some grown, some (.tables _ _), true => some ⟨grown, path, true, []⟩
    | some grown, some (.table .parent entries), false =>
      (Entries.change false (fun _ outer => some (outer.filter (·.1 ≠ name)))
        path.dropLast .header grown).map fun without => ⟨without, path, false, entries⟩
    | _, _, _ => none
where
  /-- What a path stands for. -/
  find? : Entries → List String → Option Item
    | _, [] => none
    | entries, [name] => entries.lookup name
    | entries, name :: path =>
      match entries.lookup name with
      | some (.table _ inner) => find? inner path
      | some (.tables last _) => find? last path
      | _ => none

def header (draft : Draft) (path : List String) (isArray : Bool) : Option Draft := do
  start (← draft.close) path isArray

def assign (draft : Draft) (path : List String) (name : String) (value : Value) : Option Draft := do
  return { draft with current := ← draft.current.assign path name value }

def finish (draft : Draft) : Option Document := draft.close.map entryValues

end Draft

/-- The value of an inline table, from its assignments. -/
def inlineTable? (assignments : List (List String × Value)) : Option Value := do
  let entries ← assignments.foldlM (fun entries (path, value) => do
    let name ← path.getLast?
    Entries.assign path.dropLast name value entries) ([] : Entries)
  return .table (entryValues entries)

end ReqlLua.Toml
