import ReqlLua.Dictionary
import ReqlLua.Template
import ReqlLua.Text.Quoted

/-! Substitution of texts for the markers of a template. -/

namespace ReqlLua

/-- The text that takes the place of each marker, by key. -/
abbrev Substitutions := Dictionary String String

/-- The listing of the keys alone that stands for a set of substitutions in reports. -/
def Substitutions.summary (substitutions : Substitutions) : String :=
  "Substitutions \x7b keys: [" ++ ", ".intercalate (substitutions.keys.map Text.quoted) ++ "] \x7d"

/-- A marker without a text, with the byte position of its opener. -/
structure Unresolved where
  key : String
  offset : Nat
deriving DecidableEq

namespace Template

/-- Markers are resolved in source order, and the first without a text decides the error. -/
def renderPieces (substitutions : Substitutions) : List Piece → Except Unresolved String
  | [] => .ok ""
  | piece :: rest =>
    match substitutions.get? piece.key with
    | none => .error ⟨piece.key, piece.offset⟩
    | some value => (renderPieces substitutions rest).map (piece.literal ++ value ++ ·)

def render (template : Template) (substitutions : Substitutions) : Except Unresolved String :=
  (renderPieces substitutions template.pieces).map (· ++ template.tail)

/-- The source with every marker replaced. -/
def splice (source : String) (substitutions : Substitutions) : Except Unresolved String :=
  (ofSource source).render substitutions

end Template

end ReqlLua
