import ReqlLua.Proofs.Template.Settled

/-! Blanks around keys. Markers may be written anew with other text between their brackets, as long as none of
it closes them: the literals stay what they are, whatever brackets they hold. So a source and the same source
without the blanks around its keys have the same literals and keys. -/

namespace ReqlLua.Template

open Delimiters Text

/-! ### Other text between the brackets -/

/-- No closer ends in a text without brackets that close. -/
theorem length_le_of_closers {text rest other after : List Char} (unclosed : ']' ∉ text)
    (split : text ++ (closer ++ rest) = other ++ (closer ++ after)) : text.length ≤ other.length := by
  rcases List.append_eq_append_iff.1 split with ⟨between, rfl, -⟩ | ⟨between, rfl, closing⟩
  · rw [List.length_append]
    exact Nat.le_add_right _ _
  · cases between with
    | nil => exact Nat.le_of_eq (congrArg List.length (List.append_nil other))
    | cons c between =>
      obtain ⟨rfl, -⟩ := List.cons_eq_cons.1 (closing : ']' :: ']' :: after = _)
      exact absurd (List.mem_append_right _ List.mem_cons_self) unclosed

/-- A text that makes a marker when brackets are put around it, and that none of its characters closes. -/
structure Enclosable (raw : List Char) : Prop where
  nonempty : raw ≠ []
  oneLine : '\n' ∉ raw
  unclosed : ']' ∉ raw

theorem Enclosable.starts {raw : List Char} (enclosable : Enclosable raw) (rest : List Char) :
    delimiters.Starts (delimiters.around raw ++ rest) raw rest :=
  ⟨rfl, enclosable.nonempty, enclosable.oneLine⟩

theorem Enclosable.shortest {raw rest other after : List Char} (enclosable : Enclosable raw)
    (starts : delimiters.Starts (delimiters.around raw ++ rest) other after) :
    raw.length ≤ other.length := by
  have split := starts.split
  simp only [around_eq, List.append_assoc] at split
  exact length_le_of_closers enclosable.unclosed (List.append_cancel_left split)

/-- The first marker with another text between its brackets and another text behind it. -/
theorem first_rewritten {text literal raw rest : List Char}
    (first : delimiters.First text literal raw rest) {raw' : List Char} (enclosable : Enclosable raw')
    (rest' : List Char) :
    delimiters.First (literal ++ (delimiters.around raw' ++ rest')) literal raw' rest' where
  split := rfl
  starts := enclosable.starts rest'
  shortest := enclosable.shortest
  leftmost split starts := by
    have behind : delimiters.around raw' ++ rest' = opener ++ (raw' ++ (closer ++ rest')) :=
      starts_opener (enclosable.starts rest')
    rw [behind] at split
    exact starts_behind_literal first _ split starts

/-- Markers with other texts between their brackets. -/
def rewritten (change : List Char → List Char) (marked : List (List Char × List Char)) :
    List (List Char × List Char) :=
  marked.map fun piece => (piece.1, change piece.2)

theorem found_rewritten {text last : List Char} {marked : List (List Char × List Char)}
    (found : delimiters.Found text marked last) (change : List Char → List Char)
    (enclosable : ∀ piece ∈ marked, Enclosable (change piece.2)) :
    delimiters.Found (sourceOf (rewritten change marked) ++ last) (rewritten change marked) last := by
  induction found with
  | rest none => exact .rest none
  | @marker text literal raw rest last marked first later ih =>
    obtain ⟨enclosableFirst, enclosableLater⟩ := List.forall_mem_cons.1 enclosable
    have behind : sourceOf (rewritten change ((literal, raw) :: marked)) ++ last =
        literal ++ (delimiters.around (change raw) ++ (sourceOf (rewritten change marked) ++ last)) := by
      simp only [sourceOf, rewritten, List.map_cons, List.flatMap_cons, List.append_assoc]
    rw [behind]
    exact .marker (first_rewritten first enclosableFirst _) (ih enclosableLater)

/-- Between the brackets of a marker there is something, and all of it on one line. -/
theorem found_between {text last : List Char} {marked : List (List Char × List Char)}
    (found : delimiters.Found text marked last) : ∀ piece ∈ marked, piece.2 ≠ [] ∧ '\n' ∉ piece.2 := by
  induction found with
  | rest none => exact fun _ member => absurd member List.not_mem_nil
  | marker first later ih =>
    exact List.forall_mem_cons.2 ⟨⟨first.starts.nonempty, first.starts.oneLine⟩, ih⟩

/-! ### Blanks around keys -/

/-- Each literal with the key behind it. -/
def parts (template : Template) : List (String × String) :=
  template.pieces.map fun piece => (piece.literal, piece.key)

/-- The source with nothing but the key between the brackets of each marker. -/
def canonical (template : Template) : String :=
  String.join (template.parts.map fun part => part.1 ++ "--[[" ++ part.2 ++ "]]") ++ template.tail

theorem parts_literals (template : Template) :
    template.parts.map (·.1) = template.pieces.map Piece.literal := by
  rw [parts, List.map_map]
  rfl

theorem parts_keys (template : Template) : template.parts.map (·.2) = template.keys := by
  rw [parts, List.map_map]
  rfl

theorem parts_eq_texts (template : Template) :
    template.parts = (textsOf template.pieces).map fun piece => (String.ofList piece.1, nameIn piece.2) := by
  simp only [parts, textsOf, List.map_map, Function.comp_def, String.ofList_toList]
  rfl

theorem canonical_toList (template : Template) :
    template.canonical.toList =
      sourceOf (rewritten trim (textsOf template.pieces)) ++ template.tail.toList := by
  simp only [canonical, parts, sourceOf, rewritten, textsOf, String.toList_append, String.toList_join,
    List.flatMap_map, List.map_map, around_eq, Piece.key, String.toList_ofList, List.append_assoc,
    Function.comp_def]
  rfl

/-- Where the keys can stand between brackets, the source without the blanks around them has the same parts. -/
theorem parts_canonical {source : String}
    (named : ∀ key ∈ (ofSource source).keys, key ≠ "" ∧ ']' ∉ key.toList) :
    (ofSource (ofSource source).canonical).parts = (ofSource source).parts ∧
      (ofSource (ofSource source).canonical).tail = (ofSource source).tail := by
  have found := ofSource_finds source
  have enclosable : ∀ piece ∈ textsOf (ofSource source).pieces, Enclosable (trim piece.2) := by
    intro piece member
    obtain ⟨-, oneLine⟩ := found_between found piece member
    have inKeys : nameIn piece.2 ∈ (ofSource source).keys := by
      rw [← parts_keys, parts_eq_texts, List.map_map]
      exact List.mem_map_of_mem member
    obtain ⟨nonempty, unclosed⟩ := named _ inKeys
    rw [nameIn, String.toList_ofList] at unclosed
    refine ⟨fun empty => nonempty ?_, fun ends => oneLine ((trim_trimmed piece.2).mem ends), unclosed⟩
    rw [nameIn, empty, String.ofList_nil]
  have written := found_rewritten found trim enclosable
  have read := ofSource_finds (ofSource source).canonical
  rw [canonical_toList] at read
  obtain ⟨marked, last⟩ := read.unique written
  constructor
  · rw [parts_eq_texts, parts_eq_texts]
    change textsOf _ = rewritten trim (textsOf _) at marked
    rw [marked, rewritten, List.map_map]
    simp only [Function.comp_def, nameIn, trim_trim]
  · exact String.toList_inj.1 last

variable {substitutions : Substitutions}

/-- Apart from the place of a marker without a text only the parts count. -/
theorem renderPieces_parts {pieces others : List Piece}
    (same : pieces.map (fun piece => (piece.literal, piece.key)) =
      others.map fun piece => (piece.literal, piece.key)) :
    (renderPieces substitutions pieces).mapError Unresolved.key =
      (renderPieces substitutions others).mapError Unresolved.key := by
  induction pieces generalizing others with
  | nil =>
    obtain rfl := List.map_eq_nil_iff.1 same.symm
    rfl
  | cons piece pieces ih =>
    obtain ⟨other, others, rfl, part, later⟩ := List.map_eq_cons_iff.1 same.symm
    obtain ⟨literal, key⟩ := Prod.mk.inj part
    have later := ih later.symm
    simp only [renderPieces, literal, key]
    cases substitutions.get? piece.key with
    | none => rfl
    | some value =>
      simp only []
      revert later
      cases renderPieces substitutions pieces <;> cases renderPieces substitutions others <;>
        simp [Except.map, Except.mapError]

theorem render_parts {template other : Template} (parts : template.parts = other.parts)
    (tail : template.tail = other.tail) :
    (template.render substitutions).mapError Unresolved.key =
      (other.render substitutions).mapError Unresolved.key := by
  have same : (renderPieces substitutions template.pieces).mapError Unresolved.key =
      (renderPieces substitutions other.pieces).mapError Unresolved.key := renderPieces_parts parts
  rw [render, render, tail]
  revert same
  cases renderPieces substitutions template.pieces <;> cases renderPieces substitutions other.pieces <;>
    simp [Except.map, Except.mapError]

/-- Blanks around keys make no difference. Without them a source whose keys can stand between brackets has the same
literals and the same keys in the same order, so splicing gives the same text or fails at the same key, and there is
nothing left to take away. -/
theorem canonical_reads_alike {source : String}
    (named : ∀ key ∈ (ofSource source).keys, key ≠ "" ∧ ']' ∉ key.toList) :
    let tidied := (ofSource source).canonical
    ((ofSource tidied).pieces.map Piece.literal = (ofSource source).pieces.map Piece.literal ∧
      (ofSource tidied).tail = (ofSource source).tail ∧ (ofSource tidied).keys = (ofSource source).keys) ∧
    (∀ substitutions, (splice tidied substitutions).mapError Unresolved.key =
      (splice source substitutions).mapError Unresolved.key) ∧
    (ofSource tidied).canonical = tidied := by
  obtain ⟨parts, tail⟩ := parts_canonical named
  refine ⟨⟨?_, tail, ?_⟩, fun substitutions => render_parts parts tail, ?_⟩
  · rw [← parts_literals, ← parts_literals, parts]
  · rw [← parts_keys, ← parts_keys, parts]
  · rw [canonical, parts, tail]
    rfl

/-- The keys hold an opener and blanks of their own, and the literals openers that nothing closes. -/
theorem canonical_reads_alike_openers :
    let source := "--[[ a\n]-[[--[[\t--[[ b\u3000c ]]]-[[x--[[d]]--[[ "
    let tidied := "--[[ a\n]-[[--[[--[[ b\u3000c]]]-[[x--[[d]]--[[ "
    (∀ key ∈ (ofSource source).keys, key ≠ "" ∧ ']' ∉ key.toList) ∧
      (ofSource source).canonical = tidied ∧ (ofSource tidied).keys = ["--[[ b\u3000c", "d"] ∧
      (∀ substitutions, (splice tidied substitutions).mapError Unresolved.key =
        (splice source substitutions).mapError Unresolved.key) ∧
      (ofSource tidied).canonical = tidied := by
  intro source tidied
  have named : ∀ key ∈ (ofSource source).keys, key ≠ "" ∧ ']' ∉ key.toList := by decide
  have written : (ofSource source).canonical = tidied := by decide
  obtain ⟨-, spliced, again⟩ := canonical_reads_alike named
  rw [written] at spliced again
  exact ⟨named, written, by decide, spliced, again⟩

end ReqlLua.Template
