import ReqlLua.Dictionary
import ReqlLua.Files.Path

/-! The tree of files below the root, as a program in a working directory finds it, and the operations that
a run performs on it. -/

namespace ReqlLua

/-- Why an operation on a file fails. -/
inductive FileFault where
  | notFound
  | busy
  | notDirectory
  | isDirectory
  | nameTooLong
  | nulInName
  | notText
  | other (description : String)
deriving DecidableEq

def FileFault.message : FileFault → String
  | .notFound => "No such file or directory (os error 2)"
  | .busy => "Device or resource busy (os error 16)"
  | .notDirectory => "Not a directory (os error 20)"
  | .isDirectory => "Is a directory (os error 21)"
  | .nameTooLong => "File name too long (os error 36)"
  | .nulInName => "file name contained an unexpected NUL byte"
  | .notText => "stream did not contain valid UTF-8"
  | .other description => description

inductive Entry where
  | file (contents : ByteArray)
  | directory

/-- A place in the tree, by the names that lead to it from the root. -/
abbrev Location := List String

/-- What lies at each place below the root, for a program whose working directory is the place `home`. -/
structure FileTree (home : Location) where
  entries : Dictionary Location Entry

namespace FileTree

variable {home : Location}

/-- Nothing but the root, as a program at the root finds it. -/
def bare : FileTree [] := ⟨.empty⟩

def insert (tree : FileTree home) (location : Location) (entry : Entry) : FileTree home :=
  ⟨tree.entries.insert location entry⟩

def erase (tree : FileTree home) (location : Location) : FileTree home :=
  ⟨tree.entries.erase location⟩

/-- The root is a directory in every tree. -/
def entry? (tree : FileTree home) (location : Location) : Option Entry :=
  if location = [] then some .directory else tree.entries.get? location

def maxNameBytes : Nat := 255
def maxPathBytes : Nat := 4095

/-- One component further on a path. Only a directory leads on, and the root is above itself. -/
def step (tree : FileTree home) (location : Location) (component : String) :
    Except FileFault Location :=
  match tree.entry? location with
  | none => .error .notFound
  | some (.file _) => .error .notDirectory
  | some .directory =>
    if component = "" || component = "." then .ok location
    else if component = ".." then .ok location.dropLast
    else if maxNameBytes < component.utf8ByteSize then .error .nameTooLong
    else .ok (location ++ [component])

def walk (tree : FileTree home) : Location → List String → Except FileFault Location
  | location, [] => .ok location
  | location, component :: rest =>
    match tree.step location component with
    | .error fault => .error fault
    | .ok next => tree.walk next rest

/-- The components of a path that may lead somewhere in the tree. -/
def wayOf (path : String) : Except FileFault (List String) :=
  if path.toList.contains (Char.ofNat 0) then .error .nulInName
  else if path = "" then .error .notFound
  else if maxPathBytes < path.utf8ByteSize then .error .nameTooLong
  else .ok (Path.components path)

/-- The place from which a path leads: the root, or the working directory if the path is relative. -/
def start (home : Location) (path : String) : Location := if Path.isAbsolute path then [] else home

/-- The place that a path leads to, where something may lie or be put. -/
def locate (tree : FileTree home) (path : String) : Except FileFault Location := do
  tree.walk (start home path) (← wayOf path)

def isFile (tree : FileTree home) (path : String) : Bool :=
  match tree.locate path with
  | .error _ => false
  | .ok location =>
    match tree.entry? location with
    | some (.file _) => true
    | _ => false

def read (tree : FileTree home) (path : String) : Except FileFault ByteArray := do
  let location ← tree.locate path
  match tree.entry? location with
  | none => .error .notFound
  | some .directory => .error .isDirectory
  | some (.file contents) => .ok contents

/-- Empties a file, or makes an empty one in a directory that is there. -/
def truncate (tree : FileTree home) (path : String) : Except FileFault (FileTree home) := do
  let location ← tree.locate path
  match tree.entry? location with
  | some .directory => .error .isDirectory
  | _ => .ok (tree.insert location (.file .empty))

/-- Adds bytes at the end of a file. -/
def append (tree : FileTree home) (path : String) (bytes : ByteArray) : Except FileFault (FileTree home) := do
  let location ← tree.locate path
  match tree.entry? location with
  | none => .error .notFound
  | some .directory => .error .isDirectory
  | some (.file contents) => .ok (tree.insert location (.file (contents ++ bytes)))

def write (tree : FileTree home) (path : String) (contents : ByteArray) : Except FileFault (FileTree home) := do
  let emptied ← tree.truncate path
  emptied.append path contents

def remove (tree : FileTree home) (path : String) : Except FileFault (FileTree home) := do
  let location ← tree.locate path
  match tree.entry? location with
  | none => .error .notFound
  | some .directory => .error .isDirectory
  | some (.file _) => .ok (tree.erase location)

/-- The place at which a file may take the name `path`: a name of its own in a directory, without
a slash behind it, that no directory bears. -/
def locateTarget (tree : FileTree home) (path : String) : Except FileFault Location := do
  let way ← wayOf path
  let names := (way.reverse.dropWhile (· == "")).reverse
  let name := names.getLastD ""
  let directory ← tree.walk (start home path) names.dropLast
  -- The root has no name, and those of the directory itself and of the one above it are refused, once it is
  -- a directory.
  let location ← tree.step directory (if name = ".." then "." else name)
  if name = "" || name = "." || name = ".." then .error .busy
  else if way.getLast? == some "" then .error .notDirectory
  else match tree.entry? location with
    | some .directory => .error .isDirectory
    | _ => .ok location

/-- Moves a file to a new name in one step; a file that bears the name is replaced. -/
def rename (tree : FileTree home) (source target : String) : Except FileFault (FileTree home) := do
  let origin ← tree.locate source
  let destination ← tree.locateTarget target
  match tree.entry? origin with
  | some (.file contents) =>
    .ok ((tree.erase origin).insert destination (.file contents))
  | some .directory => .error .notDirectory
  | none => .error .notFound

end FileTree

end ReqlLua
