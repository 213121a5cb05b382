/-! Classes of characters given by ranges of code points. -/

namespace ReqlLua.Text

/-- The first and the last code point of a run, both included. -/
abbrev CodeRange := Nat × Nat

def CodeRange.covers (ranges : List CodeRange) (c : Char) : Bool :=
  ranges.any fun range => range.1 ≤ c.toNat && c.toNat ≤ range.2

end ReqlLua.Text
