/-! Bounds of 64-bit words. -/

namespace ReqlLua.Word

/-- The numbers of unsigned words are below this one. -/
def unsignedBound : Nat := 0x10000000000000000

/-- The numbers of signed words are below this one, and it is one of them with a minus. -/
def signedBound : Nat := 0x8000000000000000

end ReqlLua.Word
