import ReqlLua.Event
import ReqlLua.Files.Tree

/-! Jobs: what a run does to files and reports on the way, as a value. A job can be carried out on
a file tree, where every state between two of its operations can be looked at, or on the files of
the machine. -/

namespace ReqlLua

inductive Job (α : Type) where
  | done (result : α)
  | note (note : Note) (next : Job α)
  | isFile (path : String) (next : Bool → Job α)
  | read (path : String) (next : Except FileFault ByteArray → Job α)
  | write (path : String) (contents : ByteArray) (next : Except FileFault Unit → Job α)
  | rename (source target : String) (next : Except FileFault Unit → Job α)
  | remove (path : String) (next : Except FileFault Unit → Job α)

namespace Job

variable {α β : Type} {home : Location}

def bind (job : Job α) (follow : α → Job β) : Job β :=
  match job with
  | .done result => follow result
  | .note entry next => .note entry (next.bind follow)
  | .isFile path next => .isFile path fun answer => (next answer).bind follow
  | .read path next => .read path fun answer => (next answer).bind follow
  | .write path contents next => .write path contents fun answer => (next answer).bind follow
  | .rename source target next => .rename source target fun answer => (next answer).bind follow
  | .remove path next => .remove path fun answer => (next answer).bind follow

instance : Monad Job where
  pure := .done
  bind := bind

/-- Attributes what the job reports to a template, unless it is attributed already. -/
def within (name : String) (job : Job α) : Job α :=
  match job with
  | .done result => .done result
  | .note entry next => .note ⟨entry.scope.or (some name), entry.event⟩ (next.within name)
  | .isFile path next => .isFile path fun answer => (next answer).within name
  | .read path next => .read path fun answer => (next answer).within name
  | .write path contents next => .write path contents fun answer => (next answer).within name
  | .rename source target next => .rename source target fun answer => (next answer).within name
  | .remove path next => .remove path fun answer => (next answer).within name

/-- What a job leaves behind. -/
structure Outcome (home : Location) (α : Type) where
  result : α
  tree : FileTree home
  notes : List Note

/-- The answer to an operation that changes the tree, and the tree afterwards. -/
def settle (tree : FileTree home) :
    Except FileFault (FileTree home) → Except FileFault Unit × FileTree home
  | .error fault => (.error fault, tree)
  | .ok changed => (.ok (), changed)

/-- Carries a job out on a file tree. -/
def runOn (tree : FileTree home) : Job α → Outcome home α
  | .done result => ⟨result, tree, []⟩
  | .note entry next =>
    let outcome := next.runOn tree
    ⟨outcome.result, outcome.tree, entry :: outcome.notes⟩
  | .isFile path next => (next (tree.isFile path)).runOn tree
  | .read path next => (next (tree.read path)).runOn tree
  | .write path contents next =>
    let settled := settle tree (tree.write path contents)
    (next settled.1).runOn settled.2
  | .rename source target next =>
    let settled := settle tree (tree.rename source target)
    (next settled.1).runOn settled.2
  | .remove path next =>
    let settled := settle tree (tree.remove path)
    (next settled.1).runOn settled.2

def report (event : Event) : Job Unit := .note ⟨none, event⟩ (.done ())

def asksFile (path : String) : Job Bool := .isFile path .done

/-- The text of a file, which must be UTF-8. -/
def readsText (path : String) : Job (Except FileFault String) :=
  .read path fun answer => .done do
    let contents ← answer
    match String.fromUTF8? contents with
    | some text => .ok text
    | none => .error .notText

def writes (path text : String) : Job (Except FileFault Unit) := .write path text.toUTF8 .done

def renames (source target : String) : Job (Except FileFault Unit) :=
  .rename source target .done

def removes (path : String) : Job (Except FileFault Unit) := .remove path .done

end Job

end ReqlLua
