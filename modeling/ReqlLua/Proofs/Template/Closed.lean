import ReqlLua.Proofs.Template.Canonical

/-! Texts that leave no opener open. Behind such a text an opener is read as if nothing stood before it, so
the text and what follows it are spliced one after the other. -/

namespace ReqlLua.Template

open Delimiters Text

/-! ### Closed texts -/

/-- A text with an opener that is still open at its end. -/
def Opens (text : List Char) : Prop := ∃ before inner, text = before ++ (opener ++ inner) ∧ '\n' ∉ inner

/-- A source that leaves no opener open: every one is that of a marker, belongs to its text or is followed by the
end of its line. -/
def Closed (source : String) : Prop := ¬Opens (ofSource source).tail.toList

theorem not_opens_of_line {text : List Char} (line : text.getLast? = some '\n') : ¬Opens text := by
  rintro ⟨before, inner, rfl, oneLine⟩
  have last : '\n' ∈ opener ++ inner := by
    rw [List.getLast?_append, Option.or_of_isSome (by simp [opener])] at line
    exact List.mem_of_getLast? line
  rcases List.mem_append.1 last with inOpener | inInner
  · exact absurd inOpener (by decide)
  · exact oneLine inInner

/-- Whole lines leave no opener open. -/
theorem closed_of_lines {source : String} (lines : source = "" ∨ ∃ before, source = before ++ "\n") :
    Closed source := by
  rintro ⟨before, inner, opened, oneLine⟩
  have tiles := found_tiles (ofSource_finds source)
  rcases lines with rfl | ⟨line, rfl⟩
  · have empty := (List.append_eq_nil_iff.1 tiles.symm).2
    rw [opened] at empty
    exact absurd empty (by simp [opener])
  · rw [opened, ← List.append_assoc] at tiles
    have ends : (line ++ "\n").toList.getLast? = some '\n' := by
      rw [String.toList_append]
      exact List.getLast?_concat
    exact not_opens_of_line ends ⟨_, inner, tiles, oneLine⟩

/-- The search can be cut before an opener where the text leaves none open. -/
theorem finds_append {front back : List Char} {first second : Cuts} (found : Finds front first)
    (closed : ¬Opens first.last) (found' : Finds (opener ++ back) second) :
    Finds (front ++ (opener ++ back)) (first.followedBy second) := by
  refine finds_followedBy found (fun {before behind raw after} split starts => ?_) found'
  obtain rfl := starts_opener starts
  rcases opener_in_front split with late | ⟨inner, opened, follows⟩
  · exact late
  · -- The line of an earlier opener ends in the text, and a marker there would end with it.
    have ends : '\n' ∈ inner :=
      Decidable.byContradiction fun oneLine => closed ⟨before, inner, opened, oneLine⟩
    obtain ⟨line, lines, rfl⟩ := List.append_of_mem ends
    have spread : opener ++ (raw ++ (closer ++ after)) =
        (opener ++ line) ++ '\n' :: (lines ++ (opener ++ back)) := by
      rw [follows]
      simp only [List.append_assoc, List.cons_append]
    rw [spread] at starts
    obtain ⟨between, onLine, -⟩ := starts_line starts
    have again : first.last = before ++ (opener ++ line ++ '\n' :: lines) := by
      rw [opened, List.append_assoc opener]
    exact absurd (starts_append onLine ('\n' :: lines)) (found_last found again)

/-- The text before a marker leaves no opener open, and its pieces are those before the marker. -/
theorem found_before {text last literal raw : List Char} {front behind : List (List Char × List Char)}
    (found : delimiters.Found text (front ++ (literal, raw) :: behind) last) :
    delimiters.Found (sourceOf front ++ literal) front literal ∧ ¬Opens literal := by
  induction front generalizing text with
  | nil =>
    cases found with
    | marker first later =>
      refine ⟨.rest fun {before behind other after} split starts => ?_, ?_⟩
      · change literal = before ++ behind at split
        have spread := first.split
        rw [split, List.append_assoc] at spread
        have early := first.leftmost spread (starts_append starts _)
        obtain ⟨rest, shape⟩ := starts_nonempty starts
        rw [split, shape, List.length_append, List.length_cons] at early
        omega
      · rintro ⟨before, inner, opened, oneLine⟩
        have starts : delimiters.Starts (opener ++ inner ++ ('.' :: closer)) (inner ++ ['.']) [] := by
          refine ⟨?_, by simp, ?_⟩
          · simp only [around_eq, List.append_assoc, List.singleton_append, List.append_nil]
          · simp [delimiters, oneLine]
        exact not_starts_in_literal first opened _ starts
  | cons piece front ih =>
    obtain ⟨literal', raw'⟩ := piece
    rw [List.cons_append] at found
    cases found with
    | @marker _ _ _ rest _ _ first later =>
      obtain ⟨found', closed⟩ := ih later
      refine ⟨?_, closed⟩
      have split : rest = (sourceOf front ++ literal) ++
          (delimiters.around raw ++ (sourceOf behind ++ last)) := by
        rw [found_tiles later]
        simp only [sourceOf, List.flatMap_append, List.flatMap_cons, List.append_assoc]
      have here := first.split
      rw [split] at first here
      rw [here] at first
      have spread : sourceOf ((literal', raw') :: front) ++ literal =
          literal' ++ (delimiters.around raw' ++ (sourceOf front ++ literal)) := by
        simp only [sourceOf, List.flatMap_cons, List.append_assoc]
      rw [spread]
      exact .marker (first_front first) found'

/-! ### Splicing behind closed texts -/

variable {substitutions : Substitutions}

/-- The text for the marker of a name, whose opener stands at a place. -/
def textFor (substitutions : Substitutions) (name : String) (offset : Nat) : Except Unresolved String :=
  match substitutions.get? name with
  | none => .error ⟨name, offset⟩
  | some text => .ok text

theorem render_behind (raw : List Char) (cuts : Cuts) :
    (cuts.behind [] raw).render substitutions = do
      let value ← textFor substitutions (nameIn raw) 0
      let back ← (cuts.render substitutions).mapError (.behind (byteLength (delimiters.around raw)))
      return value ++ back := by
  have key : String.ofList (trim (String.ofList raw).toList) = nameIn raw := by
    rw [String.toList_ofList, nameIn]
  rw [render_mapError]
  simp only [Cuts.behind, Cuts.render, place, renderPieces, Piece.key, key, byteLength_nil, Nat.zero_add, textFor,
    around_eq]
  cases substitutions.get? (nameIn raw) with
  | none => rfl
  | some value =>
    simp only []
    cases renderPieces substitutions (place _ cuts.marked) with
    | error marker => rfl
    | ok back =>
      apply congrArg Except.ok
      rw [String.ofList_nil, String.empty_append]
      exact String.append_assoc

/-- The pieces of a source as cuts. -/
def cutsOf (source : String) : Cuts := ⟨textsOf (ofSource source).pieces, (ofSource source).tail.toList⟩

theorem finds_cutsOf (source : String) : Finds source.toList (cutsOf source) := ofSource_finds source

theorem cutsOf_eq {source : String} {cuts : Cuts} (finds : Finds source.toList cuts) : cutsOf source = cuts := by
  obtain ⟨marked, last⟩ := (finds_cutsOf source).unique finds
  exact congrArg₂ Cuts.mk marked last

theorem finds_marker {raw after : List Char} {cuts : Cuts}
    (first : delimiters.First (delimiters.around raw ++ after) [] raw after) (found : Finds after cuts) :
    Finds (opener ++ (raw ++ (closer ++ after))) (cuts.behind [] raw) := by
  rw [← starts_opener first.starts]
  exact .marker first found

/-- A closed text and what begins with an opener are spliced one after the other. -/
theorem splice_closed {before source : String} (closed : Closed before) {back : List Char} {cuts : Cuts}
    (split : source.toList = before.toList ++ (opener ++ back)) (finds : Finds (opener ++ back) cuts) :
    splice source substitutions = do
      let front ← splice before substitutions
      let back ← (cuts.render substitutions).mapError (.behind before.utf8ByteSize)
      return front ++ back := by
  have joined := finds_append (finds_cutsOf before) closed finds
  rw [← split] at joined
  have size : before.utf8ByteSize = byteLength (sourceOf (cutsOf before).marked ++ (cutsOf before).last) := by
    rw [utf8ByteSize_eq_byteLength]
    exact congrArg byteLength (found_tiles (finds_cutsOf before))
  rw [splice_of_finds joined, splice_of_finds (finds_cutsOf before), render_followedBy, size]

/-- Behind a closed text a marker is replaced, and what follows it is spliced by itself. -/
theorem splice_marker {before raw after : String} (closed : Closed before)
    (first : delimiters.First (delimiters.around raw.toList ++ after.toList) [] raw.toList after.toList) :
    splice (before ++ "--[[" ++ raw ++ "]]" ++ after) substitutions = do
      let front ← splice before substitutions
      let value ← textFor substitutions (nameIn raw.toList) before.utf8ByteSize
      let back ← (splice after substitutions).mapError
        (.behind (before ++ "--[[" ++ raw ++ "]]").utf8ByteSize)
      return front ++ value ++ back := by
  obtain ⟨cuts, found⟩ := exists_finds after.toList
  have split : (before ++ "--[[" ++ raw ++ "]]" ++ after).toList =
      before.toList ++ (opener ++ (raw.toList ++ (closer ++ after.toList))) := by
    simp only [String.toList_append, List.append_assoc]
    rfl
  have size : (before ++ "--[[" ++ raw ++ "]]").utf8ByteSize =
      before.utf8ByteSize + byteLength (delimiters.around raw.toList) := by
    rw [utf8ByteSize_eq_byteLength, utf8ByteSize_eq_byteLength, ← byteLength_append, around_eq]
    simp only [String.toList_append, List.append_assoc]
    rfl
  rw [splice_closed closed split (finds_marker first found), render_behind, splice_of_finds found, size,
    ← mapError_behind]
  cases splice before substitutions with
  | error marker => rfl
  | ok front =>
    rw [textFor, textFor]
    cases substitutions.get? (nameIn raw.toList) with
    | none => rfl
    | some value =>
      cases cuts.render substitutions with
      | error marker => rfl
      | ok back => exact congrArg Except.ok String.append_assoc.symm

end ReqlLua.Template
