import ReqlLua.Protocol.Enumeration

/-! The protocol definition: the types of queries, the types of responses and the terms. -/

namespace ReqlLua

structure Definition where
  query : Enumeration
  response : Enumeration
  term : Enumeration
deriving DecidableEq

end ReqlLua
