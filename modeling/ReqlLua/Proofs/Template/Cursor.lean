import ReqlLua.Proofs.Template.Grammar
import ReqlLua.Proofs.Text.Boundary

/-! The scanner as a loop over byte positions that cuts its pieces out of the source. It moves through the
middle of characters, but cuts only next to ASCII text, and no turn leaves it with as much to do as before. -/

namespace ReqlLua.Template

open Text

/-- Outside an opener, or behind the one at `markerStart` with a key that begins at `keyStart`. -/
inductive Phase where
  | outside
  | inside (markerStart keyStart : Nat)

/-- Whether an opener has to be closed or let go of. -/
def Phase.pending : Phase → Nat
  | .outside => 0
  | .inside _ _ => 1

/-- What the loop keeps: the position, the start of the literal it is in, and the pieces before that. -/
structure Cursor where
  position : Nat
  literalStart : Nat
  phase : Phase
  pieces : List Piece

namespace Cursor

def start : Cursor := ⟨0, 0, .outside, []⟩

/-- One turn of the loop, if all it cuts out can be cut out. A line feed behind an opener takes the loop
outside without a move. -/
def step (source : String) (cursor : Cursor) : Option Cursor :=
  match cursor.phase with
  | .outside =>
    if StandsAt source opener cursor.position then
      let behind := cursor.position + byteLength opener
      some { cursor with position := behind, phase := .inside cursor.position behind }
    else some { cursor with position := cursor.position + 1 }
  | .inside markerStart keyStart =>
    if StandsAt source ['\n'] cursor.position then some { cursor with phase := .outside }
    else if keyStart < cursor.position ∧ StandsAt source closer cursor.position then do
      let literal ← slice? source cursor.literalStart markerStart
      let raw ← slice? source keyStart cursor.position
      let behind := cursor.position + byteLength closer
      return ⟨behind, behind, .outside, cursor.pieces ++ [⟨literal, raw, markerStart⟩]⟩
    else some { cursor with position := cursor.position + 1 }

/-- What is made of the pieces when the loop has come to the end. -/
def finish (source : String) (cursor : Cursor) : Option Template := do
  let tail ← slice? source cursor.literalStart source.utf8ByteSize
  return ⟨cursor.pieces, tail⟩

/-- The loop comes to this cursor after so many turns. -/
inductive Reached (source : String) : Nat → Cursor → Prop
  | start : Reached source 0 start
  | turn {count : Nat} {cursor next : Cursor} (reached : Reached source count cursor)
      (inside : cursor.position < source.utf8ByteSize) (stepped : cursor.step source = some next) :
      Reached source (count + 1) next

/-! ### What every turn keeps -/

/-- The marker that is open: what it ends can be cut out, and so can its text once it is closed. -/
structure Opened (source : String) (cursor : Cursor) (markerStart keyStart : Nat) : Prop where
  literal : Sliceable source cursor.literalStart markerStart
  key : IsBoundary source keyStart
  behind : keyStart ≤ cursor.position

structure Placed (source : String) (cursor : Cursor) : Prop where
  within : cursor.position ≤ source.utf8ByteSize
  literal : IsBoundary source cursor.literalStart
  behind : cursor.literalStart ≤ cursor.position
  opened : ∀ {markerStart keyStart}, cursor.phase = .inside markerStart keyStart →
    cursor.Opened source markerStart keyStart

/-- The turns that are left at most: two for each byte to come, and one to let go of an opener. -/
def work (source : String) (cursor : Cursor) : Nat :=
  2 * (source.utf8ByteSize - cursor.position) + cursor.phase.pending

variable {source : String} {cursor next : Cursor} {markerStart keyStart count : Nat}

theorem placed_start (source : String) : start.Placed source where
  within := Nat.zero_le _
  literal := isBoundary_iff.2 ⟨[], source.toList, rfl, rfl⟩
  behind := Nat.le_refl _
  opened outside := nomatch outside

/-- What is cut out at the end can be cut out at any time. -/
theorem Placed.tail (placed : cursor.Placed source) :
    Sliceable source cursor.literalStart source.utf8ByteSize :=
  sliceable_of_boundaries (placed.behind.trans placed.within) placed.literal (isBoundary_end source)

/-- The text of the marker can be cut out where a closer stands. -/
theorem Opened.raw (opened : cursor.Opened source markerStart keyStart)
    (closed : StandsAt source closer cursor.position) : Sliceable source keyStart cursor.position :=
  sliceable_of_boundaries opened.behind opened.key (closed.boundaries closer_ascii (by decide)).1

/-- Everything is in its place behind the turn, and less is left to do. -/
structure Turned (source : String) (cursor next : Cursor) : Prop where
  placed : next.Placed source
  less : next.work source < cursor.work source

theorem Placed.advance (placed : cursor.Placed source) (inside : cursor.position < source.utf8ByteSize) :
    cursor.Turned source { cursor with position := cursor.position + 1 } := by
  refine ⟨⟨inside, placed.literal, Nat.le_succ_of_le placed.behind, ?_⟩, ?_⟩
  · intro markerStart keyStart phase
    obtain ⟨literal, key, behind⟩ := placed.opened phase
    exact ⟨literal, key, Nat.le_succ_of_le behind⟩
  · simp only [work]
    omega

theorem Placed.openMarker (placed : cursor.Placed source) (inside : cursor.position < source.utf8ByteSize)
    (stands : StandsAt source opener cursor.position) (outside : cursor.phase = .outside) :
    let behind := cursor.position + byteLength opener
    cursor.Turned source { cursor with position := behind, phase := .inside cursor.position behind } := by
  intro behind
  obtain ⟨starts, ends⟩ := stands.boundaries opener_ascii (by decide)
  have forward : behind = cursor.position + 4 := rfl
  refine ⟨⟨ends.le_utf8ByteSize, placed.literal, placed.behind.trans (Nat.le_add_right _ _), ?_⟩, ?_⟩
  · intro markerStart keyStart phase
    cases phase
    exact ⟨sliceable_of_boundaries placed.behind placed.literal starts, ends, Nat.le_refl _⟩
  · simp only [work, outside, Phase.pending]
    omega

theorem Placed.letGo (placed : cursor.Placed source) (phase : cursor.phase = .inside markerStart keyStart) :
    cursor.Turned source { cursor with phase := .outside } where
  placed := ⟨placed.within, placed.literal, placed.behind, nofun⟩
  less := by simp only [work, phase, Phase.pending, Nat.add_zero, Nat.lt_add_one]

theorem turned_closeMarker (inside : cursor.position < source.utf8ByteSize)
    (stands : StandsAt source closer cursor.position) (pieces : List Piece) :
    let behind := cursor.position + byteLength closer
    cursor.Turned source ⟨behind, behind, .outside, pieces⟩ := by
  intro behind
  obtain ⟨-, ends⟩ := stands.boundaries closer_ascii (by decide)
  have forward : behind = cursor.position + 2 := rfl
  refine ⟨⟨ends.le_utf8ByteSize, ends, Nat.le_refl _, nofun⟩, ?_⟩
  simp only [work, Phase.pending]
  omega

/-- A turn is never stuck. It keeps everything in its place and leaves less to do. -/
theorem step_turned (placed : cursor.Placed source) (inside : cursor.position < source.utf8ByteSize) :
    ∃ next, cursor.step source = some next ∧ cursor.Turned source next := by
  unfold step
  split
  next outside =>
    split
    next stands => exact ⟨_, rfl, placed.openMarker inside stands outside⟩
    next => exact ⟨_, rfl, placed.advance inside⟩
  next markerStart keyStart phase =>
    split
    next => exact ⟨_, rfl, placed.letGo phase⟩
    next =>
      split
      next closed =>
        have opened := placed.opened phase
        obtain ⟨literal, cut⟩ := Option.isSome_iff_exists.1 (slice?_isSome_iff.2 opened.literal)
        obtain ⟨raw, cut'⟩ := Option.isSome_iff_exists.1 (slice?_isSome_iff.2 (opened.raw closed.2))
        rw [cut, cut']
        exact ⟨_, rfl, turned_closeMarker inside closed.2 _⟩
      next => exact ⟨_, rfl, placed.advance inside⟩

/-- What holds at every cursor that the loop comes to. -/
theorem Reached.placed (reached : Reached source count cursor) :
    cursor.Placed source ∧ count + cursor.work source ≤ 2 * source.utf8ByteSize := by
  induction reached with
  | start => exact ⟨placed_start source, by rw [Nat.zero_add]; rfl⟩
  | turn reached inside stepped ih =>
    obtain ⟨placed, bound⟩ := ih
    obtain ⟨next, same, turned⟩ := step_turned placed inside
    obtain rfl := Option.some.inj (stepped.symm.trans same)
    have less := turned.less
    exact ⟨turned.placed, by omega⟩

end Cursor

end ReqlLua.Template
