/-! What reading from the front of a text yields. -/

namespace ReqlLua.Text

/-! Lengths along a text that is read step by step. -/

theorem length_lt_of_cons {c : Char} {rest : List Char} {limit : Nat}
    (bound : (c :: rest).length < limit) : rest.length < limit :=
  Nat.lt_of_succ_lt bound

theorem length_lt_behind {c : Char} {rest after : List Char} {limit : Nat}
    (shorter : after.length < rest.length) (bound : (c :: rest).length < limit) :
    after.length < limit :=
  Nat.lt_trans shorter (length_lt_of_cons bound)

theorem length_lt_trans_bound {text rest after : List Char} {limit : Nat}
    (less : after.length < rest.length) (shorter : rest.length < text.length)
    (bound : text.length < limit) : after.length < limit :=
  Nat.lt_trans less (Nat.lt_trans shorter bound)

/-- A value that was read and what is left of the text, which is shorter than `limit`. -/
structure Read (limit : Nat) (α : Type) where
  value : α
  rest : List Char
  shorter : rest.length < limit

namespace Read

variable {α β : Type}

/-- What was read within one limit was read within any greater one. -/
def widen {short long : Nat} (read : Read short α) (le : short ≤ long) : Read long α :=
  ⟨read.value, read.rest, Nat.lt_of_lt_of_le read.shorter le⟩

def map {limit : Nat} (change : α → β) (read : Read limit α) : Read limit β :=
  ⟨change read.value, read.rest, read.shorter⟩

/-- What a single character stands for. -/
def single (value : α) (c : Char) (rest : List Char) : Read (c :: rest).length α :=
  ⟨value, rest, Nat.lt_succ_self _⟩

/-- What was read behind a character. -/
def behind {text : List Char} (c : Char) (read : Read text.length α) :
    Read (c :: text).length α :=
  read.widen (Nat.le_succ _)

/-- What was read further on was read of the whole text. -/
def onward {limit : Nat} (first : Read limit α) (second : Read first.rest.length β) : Read limit β :=
  second.widen (Nat.le_of_lt first.shorter)

end Read

/-- A reader of whole texts, from one that keeps to any limit with room for the text. -/
def unlimited {m : Type → Type} {α : Type}
    (read : (limit : Nat) → (text : List Char) → text.length ≤ limit → m (Read limit α))
    (text : List Char) : m (Read text.length α) :=
  read text.length text (Nat.le_refl _)

end ReqlLua.Text
