import ReqlLua.Template

/-! Markers found by search. The first marker of a text is the leftmost one and, where it starts, the
shortest; the search is then repeated behind it. The alphabet is left open, so that characters and
bytes are searched by one definition. -/

namespace ReqlLua

/-- What a marker consists of besides the text between its brackets. -/
structure Delimiters (α : Type) where
  opener : List α
  closer : List α
  lineFeed : α

namespace Delimiters

variable {α : Type} (marks : Delimiters α)

def around (raw : List α) : List α := marks.opener ++ raw ++ marks.closer

/-- A marker stands at the front of a text and `rest` behind it. -/
structure Starts (text raw rest : List α) : Prop where
  split : text = marks.around raw ++ rest
  nonempty : raw ≠ []
  oneLine : marks.lineFeed ∉ raw

/-- The first marker: none starts before it, and none that starts at the same place is shorter. -/
structure First (text literal raw rest : List α) : Prop where
  split : text = literal ++ (marks.around raw ++ rest)
  starts : marks.Starts (marks.around raw ++ rest) raw rest
  shortest : ∀ {other after}, marks.Starts (marks.around raw ++ rest) other after →
    raw.length ≤ other.length
  leftmost : ∀ {before behind other after}, text = before ++ behind →
    marks.Starts behind other after → literal.length ≤ before.length

/-- Repeated search: the literals with the marker texts behind them, and the last literal, in which
there is no marker. -/
inductive Found : List α → List (List α × List α) → List α → Prop
  | rest {text : List α}
      (none : ∀ {before behind raw after}, text = before ++ behind →
        ¬marks.Starts behind raw after) : Found text [] text
  | marker {text literal raw rest last : List α} {marked : List (List α × List α)}
      (first : marks.First text literal raw rest) (later : Found rest marked last) :
      Found text ((literal, raw) :: marked) last

variable {marks}

theorem First.unique {text literal raw rest literal' raw' rest' : List α}
    (one : marks.First text literal raw rest) (other : marks.First text literal' raw' rest') :
    literal = literal' ∧ raw = raw' ∧ rest = rest' := by
  have place : literal.length = literal'.length :=
    Nat.le_antisymm (one.leftmost other.split other.starts) (other.leftmost one.split one.starts)
  obtain ⟨literals, behind⟩ := List.append_inj (one.split.symm.trans other.split) place
  have long : raw.length = raw'.length :=
    Nat.le_antisymm (one.shortest (behind ▸ other.starts)) (other.shortest (behind ▸ one.starts))
  simp only [around, List.append_assoc] at behind
  obtain ⟨raws, tails⟩ := List.append_inj (List.append_cancel_left behind) long
  exact ⟨literals, raws, List.append_cancel_left tails⟩

theorem Found.unique {text last last' : List α} {marked marked' : List (List α × List α)}
    (one : marks.Found text marked last) (other : marks.Found text marked' last') :
    marked = marked' ∧ last = last' := by
  induction one generalizing marked' with
  | rest none =>
    cases other with
    | rest => exact ⟨rfl, rfl⟩
    | marker first => exact absurd first.starts (none first.split)
  | marker first later ih =>
    cases other with
    | rest none => exact absurd first.starts (none first.split)
    | marker first' later' =>
      obtain ⟨rfl, rfl, rfl⟩ := first.unique first'
      obtain ⟨rfl, rfl⟩ := ih later'
      exact ⟨rfl, rfl⟩

end Delimiters

namespace Template

open Delimiters

def delimiters : Delimiters Char := ⟨opener, closer, '\n'⟩

/-- The search finds exactly these pieces. -/
def Finds (text : List Char) (cuts : Cuts) : Prop := delimiters.Found text cuts.marked cuts.last

/-- More text before the first literal. -/
def Cuts.extend (skipped : List Char) (cuts : Cuts) : Cuts :=
  match cuts.marked with
  | [] => ⟨[], skipped ++ cuts.last⟩
  | (literal, raw) :: later => ⟨(skipped ++ literal, raw) :: later, cuts.last⟩

theorem Cuts.extend_nil (cuts : Cuts) : cuts.extend [] = cuts := by
  obtain ⟨marked, last⟩ := cuts
  cases marked <;> rfl

theorem Cuts.extend_extend (first second : List Char) (cuts : Cuts) :
    (cuts.extend second).extend first = cuts.extend (first ++ second) := by
  obtain ⟨marked, last⟩ := cuts
  cases marked with
  | nil => simp [extend]
  | cons piece later => simp [extend]

/-- Text in which no marker starts goes to the first literal. -/
theorem Finds.extend (skipped : List Char) {text : List Char} {cuts : Cuts}
    (free : ∀ {before behind raw after}, skipped ++ text = before ++ behind →
      delimiters.Starts behind raw after → skipped.length ≤ before.length)
    (finds : Finds text cuts) : Finds (skipped ++ text) (cuts.extend skipped) := by
  -- A marker behind the skipped text is a marker of the text that is left.
  have behindSkipped : ∀ {before behind raw after}, skipped ++ text = before ++ behind →
      delimiters.Starts behind raw after →
      ∃ between, before = skipped ++ between ∧ text = between ++ behind := by
    intro before behind raw after split starts
    obtain ⟨between, same⟩ := List.prefix_of_prefix_length_le
      (List.prefix_append skipped text) (split ▸ List.prefix_append before behind)
      (free split starts)
    refine ⟨between, same.symm, ?_⟩
    rw [← same, List.append_assoc] at split
    exact List.append_cancel_left split
  obtain ⟨marked, last⟩ := cuts
  cases finds with
  | rest none =>
    refine .rest ?_
    intro before behind raw after split starts
    obtain ⟨between, -, inText⟩ := behindSkipped split starts
    exact none inText starts
  | @marker _ literal raw rest _ later first found =>
    refine .marker ⟨?_, first.starts, first.shortest, ?_⟩ found
    · rw [List.append_assoc, ← first.split]
    · intro before behind other after split starts
      obtain ⟨between, rfl, inText⟩ := behindSkipped split starts
      have bound := first.leftmost inText starts
      simp only [List.length_append]
      omega

end Template

end ReqlLua
