import ReqlLua.Protocol.Catalog
import ReqlLua.Text.Lowercase

/-! The names under which terms are called from Lua. -/

namespace ReqlLua

/-- Method names that are not the identifier in lower case. -/
abbrev MethodNames := Dictionary String String

/-- Why the terms of a catalog cannot all be named. -/
inductive NamingFault where
  | emptyName (identifier : String)
  | sharedName (name first second : String)
deriving DecidableEq

namespace MethodNames

/-- The overrides of the query language: three are Lua keywords in lower case, the others read
poorly or hide a Lua function. -/
def reql : MethodNames :=
  Dictionary.ofList
    [("AND", "and_"), ("BRACKET", "index"), ("ERROR", "error_"), ("FUNCALL", "do_"),
     ("JAVASCRIPT", "js"), ("NOT", "not_"), ("OR", "or_")]

def nameOf (names : MethodNames) (identifier : String) : String :=
  (names.get? identifier).getD (Text.lowercase identifier)

/-- Names the identifiers in turn. `owners` holds the names already given away. -/
def resolveFrom (names : MethodNames) (owners : List (String × String)) :
    List String → Except NamingFault (List String)
  | [] => .ok []
  | identifier :: rest =>
    let name := names.nameOf identifier
    if name = "" then .error (.emptyName identifier)
    else match owners.lookup name with
      | some first => .error (.sharedName name first identifier)
      | none => (resolveFrom names ((name, identifier) :: owners) rest).map (name :: ·)

/-- One name for each term in catalog order, none of them empty and no two alike. -/
def resolve (names : MethodNames) (catalog : Catalog) : Except NamingFault (List String) :=
  names.resolveFrom [] catalog.identifiers

end MethodNames

end ReqlLua
