import ReqlLua.Text.Blank
import ReqlLua.Text.Bytes

/-! Template sources. A marker is an opener, at least one character other than a line feed and the
first closer after that; everything else is literal text. A line feed abandons an opener, and what
was read of it goes back to the literal. -/

namespace ReqlLua

def Template.opener : List Char := ['-', '-', '[', '[']
def Template.closer : List Char := [']', ']']

/-- Literal text and the marker that ends it. `raw` stands between the brackets of the marker and
`offset` is the byte position of its opener in the source. -/
structure Piece where
  literal : String
  raw : String
  offset : Nat
deriving DecidableEq

/-- What a marker names: its text without the blanks around it. -/
def Piece.key (piece : Piece) : String := String.ofList (Text.trim piece.raw.toList)

/-- Pieces in source order and the literal text behind the last of them. -/
structure Template where
  pieces : List Piece
  tail : String
deriving DecidableEq

namespace Template

/-- Inside an opener the scanner holds what it has read since, newest character first. -/
inductive Mode where
  | outside
  | inside (raw : List Char)

/-- Literals with the marker texts behind them, and the last literal. -/
structure Cuts where
  marked : List (List Char × List Char)
  last : List Char

def Cuts.behind (literal raw : List Char) (cuts : Cuts) : Cuts :=
  ⟨(literal, raw) :: cuts.marked, cuts.last⟩

/-- One pass over the source. `literal` holds the text since the last marker, newest character
first. -/
def scan (literal : List Char) : Mode → List Char → Cuts
  | .outside, [] => ⟨[], literal.reverse⟩
  | .outside, '-' :: '-' :: '[' :: '[' :: rest => scan literal (.inside []) rest
  | .outside, c :: rest => scan (c :: literal) .outside rest
  | .inside raw, [] => ⟨[], literal.reverse ++ opener ++ raw.reverse⟩
  | .inside raw, '\n' :: rest => scan ('\n' :: (raw ++ (opener.reverse ++ literal))) .outside rest
  | .inside (c :: raw), ']' :: ']' :: rest =>
    (scan [] .outside rest).behind literal.reverse (c :: raw).reverse
  | .inside raw, c :: rest => scan literal (.inside (c :: raw)) rest

/-- Gives each marker its byte position, the first literal starting at `start`. -/
def place (start : Nat) : List (List Char × List Char) → List Piece
  | [] => []
  | (literal, raw) :: rest =>
    let offset := start + Text.byteLength literal
    ⟨String.ofList literal, String.ofList raw, offset⟩ ::
      place (offset + Text.byteLength (opener ++ raw ++ closer)) rest

def ofSource (source : String) : Template :=
  let cuts := scan [] .outside source.toList
  ⟨place 0 cuts.marked, String.ofList cuts.last⟩

/-- The names of the markers in source order. -/
def keys (template : Template) : List String := template.pieces.map Piece.key

end Template

end ReqlLua
