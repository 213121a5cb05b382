import ReqlLua.Proofs.Template.Openers
import ReqlLua.Proofs.Template.Splicing

/-! Markers and lines. No marker reaches beyond the end of its line, so a text can be cut behind any line feed and
the parts spliced one by one. -/

namespace ReqlLua

/-- The same marker when so many bytes stand before the text. -/
def Unresolved.behind (bytes : Nat) (marker : Unresolved) : Unresolved :=
  ⟨marker.key, bytes + marker.offset⟩

namespace Template

open Delimiters Text

/-! ### Cuts -/

/-- The pieces of one text and then those of another: the last literal of the one goes on with the first literal
of the other. -/
def Cuts.followedBy (first second : Cuts) : Cuts :=
  ⟨first.marked ++ (second.extend first.last).marked, (second.extend first.last).last⟩

theorem found_last {text last : List Char} {marked : List (List Char × List Char)}
    (found : delimiters.Found text marked last) {before behind raw after : List Char}
    (split : last = before ++ behind) : ¬delimiters.Starts behind raw after := by
  induction found with
  | rest none => exact none split
  | marker first later ih => exact ih split

/-- A search can be cut where no marker lies across the cut. -/
theorem finds_followedBy {front back : List Char} {first second : Cuts} (found : Finds front first)
    (apart : ∀ {before behind raw after}, first.last ++ back = before ++ behind →
      delimiters.Starts behind raw after → first.last.length ≤ before.length)
    (found' : Finds back second) : Finds (front ++ back) (first.followedBy second) := by
  obtain ⟨marked, last⟩ := first
  change delimiters.Found front marked last at found
  induction found with
  | rest none => exact found'.extend _ apart
  | marker first later ih => exact .marker (first_append first back) (ih apart)

/-- No marker lies across the end of a line. -/
theorem finds_append_line {front back : List Char} {first second : Cuts}
    (found : Finds (front ++ ['\n']) first) (found' : Finds back second) :
    Finds (front ++ '\n' :: back) (first.followedBy second) := by
  have apart : ∀ {before behind raw after}, first.last ++ back = before ++ behind →
      delimiters.Starts behind raw after → first.last.length ≤ before.length := by
    intro before behind raw after split starts
    rcases List.eq_nil_or_concat first.last with empty | ⟨line, c, ends⟩
    · exact empty ▸ Nat.zero_le _
    · rw [List.concat_eq_append] at ends
      have tiles := found_tiles found
      rw [ends, ← List.append_assoc] at tiles
      obtain ⟨-, same⟩ := List.append_inj' tiles rfl
      rw [ends, ← same, List.append_assoc, List.singleton_append] at split
      rw [ends, List.length_append, List.length_singleton]
      rcases starts_before_line split starts with far | ⟨inner, between, rfl, inside, -⟩
      · exact far
      · rw [← same, List.append_assoc] at ends
        exact absurd (starts_append inside ['\n']) (found_last found ends)
  have joined := finds_followedBy found apart found'
  rwa [List.append_assoc, List.singleton_append] at joined

/-! ### Rendering in parts -/

variable {substitutions : Substitutions}

/-- What the pieces of a text turn into. -/
def Cuts.render (substitutions : Substitutions) (cuts : Cuts) : Except Unresolved String :=
  (renderPieces substitutions (place 0 cuts.marked)).map (· ++ String.ofList cuts.last)

theorem splice_of_finds {source : String} {cuts : Cuts} (finds : Finds source.toList cuts) :
    splice source substitutions = cuts.render substitutions := by
  obtain ⟨found, finds', same⟩ := scan_finds [] .outside source.toList trivial
  rw [List.reverse_nil, Cuts.extend_nil] at same
  obtain ⟨marked, last⟩ := finds'.unique finds
  rw [splice, Template.render, ofSource, same, marked, last, Cuts.render]

theorem place_append (start : Nat) (first second : List (List Char × List Char)) :
    place start (first ++ second) =
      place start first ++ place (start + byteLength (sourceOf first)) second := by
  induction first generalizing start with
  | nil => rfl
  | cons piece first ih =>
    have length : byteLength (sourceOf (piece :: first)) =
        byteLength piece.1 + (byteLength (delimiters.around piece.2) + byteLength (sourceOf first)) := by
      rw [sourceOf, List.flatMap_cons, byteLength_append, byteLength_append, Nat.add_assoc]
      rfl
    simp only [List.cons_append, place, ih, length, around_eq, Nat.add_assoc]

theorem renderPieces_append (first second : List Piece) :
    renderPieces substitutions (first ++ second) = do
      let front ← renderPieces substitutions first
      let back ← renderPieces substitutions second
      return front ++ back := by
  induction first with
  | nil =>
    rw [List.nil_append, renderPieces]
    cases renderPieces substitutions second with
    | error marker => rfl
    | ok back => exact congrArg Except.ok String.empty_append.symm
  | cons piece first ih =>
    rw [List.cons_append, renderPieces, renderPieces]
    cases substitutions.get? piece.key with
    | none => rfl
    | some value =>
      simp only [ih]
      cases renderPieces substitutions first with
      | error marker => rfl
      | ok front =>
        cases renderPieces substitutions second with
        | error marker => rfl
        | ok back => exact congrArg Except.ok (String.append_assoc).symm

/-- The place of a text counts only for the offset of a marker without a text. -/
theorem renderPieces_place (before start : Nat) (marked : List (List Char × List Char)) :
    renderPieces substitutions (place (before + start) marked) =
      (renderPieces substitutions (place start marked)).mapError (.behind before) := by
  induction marked generalizing start with
  | nil => rfl
  | cons piece marked ih =>
    simp only [place, renderPieces, Piece.key, Nat.add_assoc, ih]
    cases substitutions.get? (String.ofList (trim (String.ofList piece.2).toList)) with
    | none => rfl
    | some value => cases renderPieces substitutions (place _ marked) <;> rfl

theorem mapError_behind (first second : Nat) (result : Except Unresolved String) :
    (result.mapError (Unresolved.behind second)).mapError (Unresolved.behind first) =
      result.mapError (Unresolved.behind (first + second)) := by
  cases result with
  | error marker =>
    exact congrArg Except.error (congrArg (Unresolved.mk marker.key) (Nat.add_assoc _ _ _).symm)
  | ok output => rfl

theorem map_mapError (before : Nat) (add : String → String) (result : Except Unresolved String) :
    (result.map add).mapError (Unresolved.behind before) =
      (result.mapError (Unresolved.behind before)).map add := by
  cases result <;> rfl

theorem render_mapError (before : Nat) (cuts : Cuts) :
    (cuts.render substitutions).mapError (.behind before) =
      (renderPieces substitutions (place before cuts.marked)).map (· ++ String.ofList cuts.last) := by
  rw [Cuts.render, ← Nat.add_zero before, renderPieces_place]
  cases renderPieces substitutions (place 0 cuts.marked) <;> rfl

/-- Text before the first literal is copied. -/
theorem render_extend (skipped : List Char) (cuts : Cuts) :
    (cuts.extend skipped).render substitutions =
      ((cuts.render substitutions).mapError (.behind (byteLength skipped))).map
        (String.ofList skipped ++ ·) := by
  rw [render_mapError]
  obtain ⟨marked, last⟩ := cuts
  cases marked with
  | nil =>
    apply congrArg Except.ok
    simp [Cuts.extend]
  | cons piece later =>
    simp only [Cuts.extend, Cuts.render, place, renderPieces, Piece.key, Nat.zero_add, byteLength_append]
    cases substitutions.get? (String.ofList (trim (String.ofList piece.2).toList)) with
    | none => rfl
    | some value =>
      simp only []
      cases renderPieces substitutions (place _ later) with
      | error marker => rfl
      | ok back =>
        apply congrArg Except.ok
        simp [String.append_assoc]

/-- Pieces one after the other are rendered one after the other. -/
theorem render_followedBy (first second : Cuts) :
    (first.followedBy second).render substitutions = do
      let front ← first.render substitutions
      let back ← (second.render substitutions).mapError
        (.behind (byteLength (sourceOf first.marked ++ first.last)))
      return front ++ back := by
  let skipped := second.extend first.last
  let pieces := place (byteLength (sourceOf first.marked)) skipped.marked
  let moved := (second.render substitutions).mapError
    (Unresolved.behind (byteLength (sourceOf first.marked ++ first.last)))
  have later : (renderPieces substitutions pieces).map (· ++ String.ofList skipped.last) =
      moved.map (String.ofList first.last ++ ·) := by
    rw [← render_mapError, render_extend, map_mapError, mapError_behind, ← byteLength_append]
  rw [Cuts.render, Cuts.followedBy, place_append, renderPieces_append, Nat.zero_add, Cuts.render]
  cases renderPieces substitutions (place 0 first.marked) with
  | error marker => rfl
  | ok front =>
    calc
      _ = ((renderPieces substitutions pieces).map (· ++ String.ofList skipped.last)).map
            (front ++ ·) := by
        change Except.map _ (renderPieces substitutions pieces >>= fun back => pure (front ++ back)) = _
        cases renderPieces substitutions pieces with
        | error marker => rfl
        | ok back => exact congrArg Except.ok String.append_assoc
      _ = (moved.map (String.ofList first.last ++ ·)).map (front ++ ·) := by rw [later]
      _ = _ := by
        change _ = moved >>= fun back => pure (front ++ String.ofList first.last ++ back)
        cases moved with
        | error marker => rfl
        | ok back => exact congrArg Except.ok String.append_assoc.symm

/-! ### Splicing in parts -/

theorem exists_finds (text : List Char) : ∃ cuts, Finds text cuts := by
  obtain ⟨cuts, finds, -⟩ := scan_finds [] .outside text trivial
  exact ⟨cuts, finds⟩

/-- A text can be cut behind any line feed and its parts spliced by themselves. -/
theorem splice_append (first second : String) (substitutions : Substitutions) :
    splice (first ++ "\n" ++ second) substitutions = do
      let front ← splice (first ++ "\n") substitutions
      let back ← (splice second substitutions).mapError (.behind (first ++ "\n").utf8ByteSize)
      return front ++ back := by
  have line : (first ++ "\n").toList = first.toList ++ ['\n'] := String.toList_append
  obtain ⟨cuts, found⟩ := exists_finds (first ++ "\n").toList
  obtain ⟨cuts', found'⟩ := exists_finds second.toList
  have joined : Finds (first ++ "\n" ++ second).toList (cuts.followedBy cuts') := by
    rw [line] at found
    rw [String.toList_append, line, List.append_assoc, List.singleton_append]
    exact finds_append_line found found'
  have size : (first ++ "\n").utf8ByteSize = byteLength (sourceOf cuts.marked ++ cuts.last) := by
    rw [utf8ByteSize_eq_byteLength]
    exact congrArg byteLength (found_tiles found)
  rw [splice_of_finds joined, splice_of_finds found, splice_of_finds found', size, render_followedBy]

/-- Splices texts one after the other. The first of them stands behind `start` bytes of others. -/
def spliceAll (substitutions : Substitutions) (start : Nat) : List String → Except Unresolved String
  | [] => .ok ""
  | text :: later => do
    let front ← (splice text substitutions).mapError (.behind start)
    let back ← spliceAll substitutions (start + text.utf8ByteSize) later
    return front ++ back

theorem mapError_behind_zero (result : Except Unresolved String) :
    result.mapError (.behind 0) = result := by
  cases result with
  | error marker => exact congrArg Except.error (congrArg (Unresolved.mk marker.key) (Nat.zero_add _))
  | ok output => rfl

theorem spliceAll_behind (before start : Nat) (texts : List String) :
    spliceAll substitutions (before + start) texts =
      (spliceAll substitutions start texts).mapError (.behind before) := by
  induction texts generalizing start with
  | nil => rfl
  | cons text later ih =>
    rw [spliceAll, spliceAll, Nat.add_assoc, ih, ← mapError_behind]
    cases (splice text substitutions).mapError (Unresolved.behind start) with
    | error marker => rfl
    | ok front => cases spliceAll substitutions (start + text.utf8ByteSize) later <;> rfl

theorem splice_lines (lines : List String) (last : String) :
    splice (String.join (lines.map (· ++ "\n")) ++ last) substitutions =
      spliceAll substitutions 0 (lines.map (· ++ "\n") ++ [last]) := by
  induction lines with
  | nil =>
    rw [List.map_nil, String.join_nil, String.empty_append, List.nil_append, spliceAll, mapError_behind_zero]
    cases splice last substitutions with
    | error marker => rfl
    | ok output => exact congrArg Except.ok String.append_empty.symm
  | cons line lines ih =>
    rw [List.map_cons, String.join_cons, String.append_assoc, splice_append, ih, List.cons_append, spliceAll,
      mapError_behind_zero, Nat.add_comm 0, spliceAll_behind]

/-- Splicing is local to lines. Whatever openers are left open before a line feed, the text behind it is spliced as
if it stood alone, and a marker of it without a text is only reported that much further behind. So a text can be
spliced line by line. -/
theorem splice_line_local (substitutions : Substitutions) :
    (∀ first second : String, splice (first ++ "\n" ++ second) substitutions =
      match splice (first ++ "\n") substitutions, splice second substitutions with
      | .ok front, .ok back => .ok (front ++ back)
      | .error marker, _ => .error marker
      | .ok _, .error marker => .error ⟨marker.key, (first ++ "\n").utf8ByteSize + marker.offset⟩) ∧
    ∀ (lines : List String) (last : String),
      splice (String.join (lines.map (· ++ "\n")) ++ last) substitutions =
        spliceAll substitutions 0 (lines.map (· ++ "\n") ++ [last]) := by
  refine ⟨fun first second => ?_, splice_lines⟩
  rw [splice_append]
  cases splice (first ++ "\n") substitutions with
  | error marker => rfl
  | ok front => cases splice second substitutions <;> rfl

-- The opener on the first line closes nowhere, and the offset counts the bytes of that line.
example : splice "é --[[\n--[[x]]" .empty = .error ⟨"x", 8⟩ := by rfl

end Template

end ReqlLua
