/-! String literals of Lua in single quotes. -/

namespace ReqlLua.Lua

def escape (c : Char) : List Char :=
  if c = '\\' then ['\\', '\\']
  else if c = '\'' then ['\\', '\'']
  else if c = '\n' then ['\\', 'n']
  else [c]

def quoted (text : String) : String :=
  String.ofList ('\'' :: text.toList.flatMap escape ++ ['\''])

end ReqlLua.Lua
