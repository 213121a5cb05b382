import ReqlLua.Dictionary

/-! Enumerations of the protocol: names with the signed 64-bit tags that stand for them on the
wire. The entries are in the order of the names; their Lua table is in the order of the tags. -/

namespace ReqlLua

abbrev Enumeration := Dictionary String Int64

namespace Enumeration

/-- Entries with one tag are in the order of their names. -/
def tagOrder (first second : String × Int64) : Bool :=
  first.2 < second.2 || first.2 == second.2 && first.1 ≤ second.1

def byTag (enumeration : Enumeration) : List (String × Int64) :=
  enumeration.entries.mergeSort tagOrder

def luaLine (entry : String × Int64) : String :=
  "  " ++ entry.1 ++ " = " ++ toString entry.2.toInt ++ ",\n"

/-- The enumeration as a Lua table, one line for each entry. -/
def lua (enumeration : Enumeration) : String :=
  "\x7b\n" ++ String.join (enumeration.byTag.map luaLine) ++ "\x7d"

end Enumeration

end ReqlLua
