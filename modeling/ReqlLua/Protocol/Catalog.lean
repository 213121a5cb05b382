import ReqlLua.Protocol.Enumeration

/-! The catalog lists the terms that receive a class and a method. It is built from the term
enumeration, whose names must be usable as Lua locals and whose tags must tell the terms apart. -/

namespace ReqlLua

structure Term where
  identifier : String
  tag : Int64
deriving DecidableEq

structure Catalog where
  terms : List Term
deriving DecidableEq

/-- Why an enumeration yields no catalog. -/
inductive CatalogFault where
  | badIdentifier (name : String)
  | sharedTag (tag : Int64) (first second : String)
deriving DecidableEq

namespace Catalog

def isInitial (c : Char) : Bool := c.isUpper || c == '_'
def isFollowing (c : Char) : Bool := c.isUpper || c.isDigit || c == '_'

/-- Capital letters, digits and underscores, no digit first. -/
def isIdentifier (name : String) : Bool :=
  match name.toList with
  | [] => false
  | first :: rest => isInitial first && rest.all isFollowing

/-- The terms that are written by hand and get neither class nor method. -/
def reserved : List String := ["DATUM", "IMPLICIT_VAR"]

/-- The first entry that is out of place decides the fault; `seen` holds the tags before it. -/
def check (seen : List (Int64 × String)) : List (String × Int64) → Except CatalogFault Unit
  | [] => .ok ()
  | (name, tag) :: rest =>
    if isIdentifier name then
      match seen.lookup tag with
      | some first => .error (.sharedTag tag first name)
      | none => check ((tag, name) :: seen) rest
    else .error (.badIdentifier name)

def ofEnumeration (enumeration : Enumeration) : Except CatalogFault Catalog := do
  check [] enumeration.entries
  let kept := enumeration.entries.filter fun entry => !reserved.contains entry.1
  return ⟨kept.map fun entry => ⟨entry.1, entry.2⟩⟩

def identifiers (catalog : Catalog) : List String := catalog.terms.map (·.identifier)

def size (catalog : Catalog) : Nat := catalog.terms.length

/-- Halves the interval from `low` up to but not including `high` until the term is met or the
interval is empty. -/
def bisect (terms : Array Term) (identifier : String) (low high : Nat)
    (bound : high ≤ terms.size) : Option Term :=
  if nonempty : low < high then
    let middle := low + (high - low) / 2
    have inside : middle < high := by simp only [middle]; omega
    let term := terms[middle]
    match compare term.identifier identifier with
    | .eq => some term
    | .lt => bisect terms identifier (middle + 1) high bound
    | .gt => bisect terms identifier low middle (by omega)
  else none
termination_by high - low

def get? (catalog : Catalog) (identifier : String) : Option Term :=
  let terms := catalog.terms.toArray
  bisect terms identifier 0 terms.size (Nat.le_refl _)

end Catalog

end ReqlLua
