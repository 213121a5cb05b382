import ReqlLua.Number.Binary64

/-! The values of TOML documents. -/

namespace ReqlLua.Toml

/-- Dates and times are kept as the text that TOML has for them. -/
inductive Value where
  | string (text : String)
  | integer (value : Int)
  | number (value : Binary64)
  | boolean (value : Bool)
  | moment (text : String)
  | array (items : List Value)
  | table (entries : List (String × Value))

/-- A document is a table without a name. -/
abbrev Document := List (String × Value)

end ReqlLua.Toml
