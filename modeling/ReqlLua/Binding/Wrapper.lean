import ReqlLua.Dictionary

/-! How a method hands its arguments to the class of its term. -/

namespace ReqlLua

inductive Wrapper where
  /-- All arguments follow an empty options table. -/
  | plain
  /-- The driver splits an options table off the end of the arguments. -/
  | optionsTail
  /-- Exactly `count` arguments, then the options. -/
  | fixedArity (count : Nat)
deriving DecidableEq

/-- The identifiers whose methods are not plain. -/
structure WrapperTable where
  optionsTail : Dictionary String Unit
  fixedArity : Dictionary String Nat

namespace WrapperTable

def empty : WrapperTable := ⟨.empty, .empty⟩

def withOptionsTail (table : WrapperTable) (identifier : String) : WrapperTable :=
  ⟨table.optionsTail.insert identifier (), table.fixedArity⟩

def withFixedArity (table : WrapperTable) (identifier : String) (count : Nat) : WrapperTable :=
  ⟨table.optionsTail, table.fixedArity.insert identifier count⟩

/-- A fixed arity wins over an options tail. -/
def wrapper (table : WrapperTable) (identifier : String) : Wrapper :=
  match table.fixedArity.get? identifier with
  | some count => .fixedArity count
  | none => if table.optionsTail.contains identifier then .optionsTail else .plain

/-- The identifiers listed both ways, in order. -/
def dualListed (table : WrapperTable) : List String :=
  table.optionsTail.keys.filter table.fixedArity.contains

def reqlOptionsTail : List String :=
  ["CIRCLE", "DELETE", "DISTINCT", "EQ_JOIN", "FILTER", "GET_ALL", "GET_INTERSECTING",
   "GET_NEAREST", "GROUP", "HTTP", "INDEX_CREATE", "INDEX_RENAME", "ISO8601", "JAVASCRIPT",
   "ORDER_BY", "RANDOM", "REPLACE", "SLICE", "TABLE", "TABLE_CREATE", "UPDATE"]

def reqlFixedArity : List (String × Nat) :=
  [("BETWEEN", 3), ("BETWEEN_DEPRECATED", 3), ("DISTANCE", 2), ("DURING", 3), ("FILTER", 2),
   ("INSERT", 2), ("UPDATE", 2)]

/-- The tables of the query language. -/
def reql : WrapperTable :=
  reqlFixedArity.foldl (fun table entry => table.withFixedArity entry.1 entry.2)
    (reqlOptionsTail.foldl withOptionsTail empty)

end WrapperTable

end ReqlLua
