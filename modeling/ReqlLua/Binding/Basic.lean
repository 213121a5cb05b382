import ReqlLua.Binding.MethodName
import ReqlLua.Binding.Wrapper

/-! Bindings: terms with everything that their Lua code depends on. -/

namespace ReqlLua

structure Binding where
  term : Term
  method : String
  wrapper : Wrapper
deriving DecidableEq

/-- What decides the shape of the generated code besides the catalog. -/
structure Tables where
  names : MethodNames
  wrappers : WrapperTable
  wrapWidth : Nat

def Tables.defaultWrapWidth : Nat := 77

def Tables.reql : Tables := ⟨.reql, .reql, Tables.defaultWrapWidth⟩

namespace Binding

/-- One binding for each term, in catalog order. -/
def ofCatalog (tables : Tables) (catalog : Catalog) : Except NamingFault (List Binding) :=
  (tables.names.resolve catalog).map fun names =>
    List.zipWith (fun term name => ⟨term, name, tables.wrappers.wrapper term.identifier⟩)
      catalog.terms names

end Binding

/-- The identifiers of the catalog that are listed both with an options tail and with a fixed
arity. -/
def Tables.dualListed (tables : Tables) (catalog : Catalog) : List String :=
  tables.wrappers.dualListed.filter fun identifier => (catalog.get? identifier).isSome

end ReqlLua
