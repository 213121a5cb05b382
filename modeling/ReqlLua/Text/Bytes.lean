/-! Lengths of texts in UTF-8 bytes, and places in them by line and column. -/

namespace ReqlLua.Text

def byteLength : List Char → Nat
  | [] => 0
  | c :: rest => c.utf8Size + byteLength rest

@[simp] theorem byteLength_nil : byteLength [] = 0 := rfl

@[simp] theorem byteLength_cons (c : Char) (text : List Char) :
    byteLength (c :: text) = c.utf8Size + byteLength text := rfl

@[simp] theorem byteLength_append (first second : List Char) :
    byteLength (first ++ second) = byteLength first + byteLength second := by
  induction first with
  | nil => simp
  | cons c rest ih => simp [ih, Nat.add_assoc]

/-- Lines are counted from one; the column is the number of bytes read on the line. -/
structure Place where
  line : Nat
  column : Nat
deriving Repr, DecidableEq

/-- The place reached after `count` bytes, going on from `place`. A character cut by the count
contributes the bytes before the cut. -/
def Place.advance (place : Place) : Nat → List Char → Place
  | 0, _ => place
  | _, [] => place
  | count + 1, c :: rest =>
    let next : Place := if c = '\n' then ⟨place.line + 1, 0⟩
      else ⟨place.line, place.column + min c.utf8Size (count + 1)⟩
    next.advance (count + 1 - c.utf8Size) rest

def Place.after (count : Nat) (text : List Char) : Place :=
  Place.advance ⟨1, 0⟩ count text

end ReqlLua.Text
