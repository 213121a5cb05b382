import ReqlLua.Proofs.Template.Grammar
import ReqlLua.Substitution

/-! Splicing end to end. With a text for every marker the source is copied but for its markers; otherwise
the first marker without a text is reported with the place of its opener. -/

namespace ReqlLua.Template

open Text

variable {substitutions : Substitutions}

/-! ### Markers and their texts -/

/-- The name between the brackets of a marker. -/
def nameIn (raw : List Char) : String := String.ofList (trim raw)

/-- There is a text for every marker. -/
def Resolved (substitutions : Substitutions) (marked : List (List Char × List Char)) : Prop :=
  ∀ piece ∈ marked, ∃ value, substitutions.get? (nameIn piece.2) = some value

/-- The literals and the markers behind them. -/
def sourceOf (marked : List (List Char × List Char)) : List Char :=
  marked.flatMap fun piece => piece.1 ++ delimiters.around piece.2

/-- The bytes of the literals and of the texts in the place of the markers. -/
def replaced (substitutions : Substitutions) (marked : List (List Char × List Char)) : List UInt8 :=
  marked.flatMap fun piece =>
    encode piece.1 ++ bytes ((substitutions.get? (nameIn piece.2)).getD "")

/-- The first marker without a text, at the byte where its opener stands. -/
def FirstUnresolved (substitutions : Substitutions) (marked : List (List Char × List Char))
    (marker : Unresolved) : Prop :=
  ∃ before literal raw behind, marked = before ++ (literal, raw) :: behind ∧
    Resolved substitutions before ∧ substitutions.get? (nameIn raw) = none ∧
    marker = ⟨nameIn raw, (encode (sourceOf before ++ literal)).length⟩

/-! ### Rendering pieces -/

/-- The literal and the text of the marker behind it. -/
def spliced (substitutions : Substitutions) (piece : Piece) : String :=
  piece.literal ++ (substitutions.get? piece.key).getD ""

theorem renderPieces_resolved {pieces : List Piece}
    (resolved : ∀ piece ∈ pieces, ∃ value, substitutions.get? piece.key = some value) :
    renderPieces substitutions pieces = .ok (String.join (pieces.map (spliced substitutions))) := by
  induction pieces with
  | nil => rfl
  | cons piece rest ih =>
    obtain ⟨⟨value, found⟩, later⟩ := List.forall_mem_cons.1 resolved
    simp only [renderPieces, found, ih later, List.map_cons, String.join_cons, spliced,
      Option.getD_some]
    rfl

theorem renderPieces_unresolved {before : List Piece} {piece : Piece}
    (resolved : ∀ other ∈ before, ∃ value, substitutions.get? other.key = some value)
    (missing : substitutions.get? piece.key = none) (behind : List Piece) :
    renderPieces substitutions (before ++ piece :: behind) = .error ⟨piece.key, piece.offset⟩ := by
  induction before with
  | nil => simp only [List.nil_append, renderPieces, missing]
  | cons other before ih =>
    obtain ⟨⟨value, found⟩, later⟩ := List.forall_mem_cons.1 resolved
    simp only [List.cons_append, renderPieces, found, ih later]
    rfl

/-- Either all pieces have a text or one of them is the first without. -/
theorem resolved_or_first (substitutions : Substitutions) (pieces : List Piece) :
    (∀ piece ∈ pieces, ∃ value, substitutions.get? piece.key = some value) ∨
      ∃ before piece behind, pieces = before ++ piece :: behind ∧
        (∀ other ∈ before, ∃ value, substitutions.get? other.key = some value) ∧
        substitutions.get? piece.key = none := by
  cases first : pieces.find? fun piece => (substitutions.get? piece.key).isNone with
  | none =>
    refine .inl fun piece member => Option.ne_none_iff_exists'.1 ?_
    simpa using List.find?_eq_none.1 first piece member
  | some piece =>
    obtain ⟨missing, before, behind, split, earlier⟩ := List.find?_eq_some_iff_append.1 first
    refine .inr ⟨before, piece, behind, split, fun other member => ?_, by simpa using missing⟩
    exact Option.isSome_iff_exists.1 (by simpa using earlier other member)

theorem renderPieces_congr {other : Substitutions} {pieces : List Piece}
    (same : ∀ piece ∈ pieces, other.get? piece.key = substitutions.get? piece.key) :
    renderPieces other pieces = renderPieces substitutions pieces := by
  induction pieces with
  | nil => rfl
  | cons piece rest ih =>
    obtain ⟨first, later⟩ := List.forall_mem_cons.1 same
    simp only [renderPieces, first, ih later]

/-! ### Pieces of a source -/

/-- Literal and marker text of each piece. -/
def textsOf (pieces : List Piece) : List (List Char × List Char) :=
  pieces.map fun piece => (piece.literal.toList, piece.raw.toList)

theorem resolved_marked {pieces : List Piece} :
    Resolved substitutions (textsOf pieces) ↔
      ∀ piece ∈ pieces, ∃ value, substitutions.get? piece.key = some value :=
  List.forall_mem_map

theorem encode_spliced (substitutions : Substitutions) (pieces : List Piece) :
    encode (String.join (pieces.map (spliced substitutions))).toList =
      replaced substitutions (textsOf pieces) := by
  induction pieces with
  | nil => rfl
  | cons piece rest ih =>
    rw [List.map_cons, String.join_cons, String.toList_append, encode_append, ih, spliced,
      String.toList_append, encode_append, ← bytes_eq_encode ((substitutions.get? piece.key).getD "")]
    rfl

theorem encode_source (pieces : List Piece) :
    (String.join (pieces.map Piece.source)).toList = sourceOf (textsOf pieces) := by
  rw [String.toList_join, List.flatMap_map, sourceOf, textsOf, List.flatMap_map]
  simp only [Piece.source_toList]

/-- The offset of a piece is the number of bytes before its opener. -/
theorem ofSource_offset {source : String} {before behind : List Piece} {piece : Piece}
    (split : (ofSource source).pieces = before ++ piece :: behind) :
    piece.offset = (encode (sourceOf (textsOf before) ++ piece.literal.toList)).length := by
  have inside : before.length < (ofSource source).pieces.length := by
    rw [split, List.length_append, List.length_cons]
    omega
  have offset := place_offset inside
  rw [Nat.zero_add] at offset
  change (ofSource source).pieces[before.length].offset = (String.join
    (((ofSource source).pieces.take before.length).map Piece.source) ++
      (ofSource source).pieces[before.length].literal).utf8ByteSize at offset
  have here : (ofSource source).pieces[before.length] = piece := by simp [split]
  have front : (ofSource source).pieces.take before.length = before := by rw [split, List.take_left]
  rw [here, front] at offset
  rw [offset, utf8ByteSize_eq_byteLength, String.toList_append, encode_source, length_encode]

/-! ### Splicing -/

theorem splice_resolved {source : String}
    (resolved : Resolved substitutions (textsOf (ofSource source).pieces)) :
    ∃ output, splice source substitutions = .ok output ∧
      bytes output = replaced substitutions (textsOf (ofSource source).pieces) ++
        encode (ofSource source).tail.toList := by
  let output := String.join ((ofSource source).pieces.map (spliced substitutions)) ++
    (ofSource source).tail
  refine ⟨output, ?_, ?_⟩
  · rw [splice, render, renderPieces_resolved (resolved_marked.1 resolved)]
    rfl
  · rw [bytes_eq_encode, String.toList_append, encode_append, encode_spliced]

theorem splice_unresolved {source : String}
    (unresolved : ¬Resolved substitutions (textsOf (ofSource source).pieces)) :
    ∃ marker, splice source substitutions = .error marker ∧
      FirstUnresolved substitutions (textsOf (ofSource source).pieces) marker := by
  rcases resolved_or_first substitutions (ofSource source).pieces with
    bound | ⟨before, piece, behind, split, bound, missing⟩
  · exact absurd (resolved_marked.2 bound) unresolved
  · refine ⟨⟨piece.key, piece.offset⟩, ?_, textsOf before, piece.literal.toList, piece.raw.toList,
      textsOf behind, ?_, resolved_marked.2 bound, missing, ?_⟩
    · rw [splice, render, split, renderPieces_unresolved bound missing]
      rfl
    · rw [split, textsOf, List.map_append, List.map_cons]
      rfl
    · rw [ofSource_offset split]
      rfl

theorem splice_congr {source : String} {other : Substitutions}
    (same : ∀ piece ∈ textsOf (ofSource source).pieces,
      other.get? (nameIn piece.2) = substitutions.get? (nameIn piece.2)) :
    splice source other = splice source substitutions := by
  have pieces : ∀ piece ∈ (ofSource source).pieces,
      other.get? piece.key = substitutions.get? piece.key := List.forall_mem_map.1 same
  rw [splice, splice, render, render, renderPieces_congr pieces]

/-- The markers are those that the search finds in the bytes of the source. Splicing succeeds exactly if
there is a text for each of them. It then keeps every byte outside the markers and puts the texts in their
place; otherwise it reports the first marker without a text and the byte at which its opener stands. Of
the substitutions only the texts of these markers count. -/
theorem splice_replaces_markers (source : String) :
    ∃ marked last,
      byteDelimiters.Found (bytes source) (marked.map fun piece => (encode piece.1, encode piece.2))
        (encode last) ∧
      bytes source = encode (sourceOf marked) ++ encode last ∧
      ∀ substitutions : Substitutions,
        ((∃ output, splice source substitutions = .ok output) ↔ Resolved substitutions marked) ∧
        (∀ output, splice source substitutions = .ok output →
          bytes output = replaced substitutions marked ++ encode last) ∧
        (∀ marker, splice source substitutions = .error marker →
          FirstUnresolved substitutions marked marker) ∧
        ∀ other : Substitutions,
          (∀ piece ∈ marked, other.get? (nameIn piece.2) = substitutions.get? (nameIn piece.2)) →
            splice source other = splice source substitutions := by
  refine ⟨textsOf (ofSource source).pieces, (ofSource source).tail.toList, ?_, ?_, ?_⟩
  · rw [bytes_eq_encode]
    exact found_encode (ofSource_finds source)
  · rw [bytes_eq_encode, ← encode_append]
    exact congrArg encode (found_tiles (ofSource_finds source))
  · intro substitutions
    by_cases resolved : Resolved substitutions (textsOf (ofSource source).pieces)
    · obtain ⟨output, succeeded, written⟩ := splice_resolved resolved
      rw [succeeded]
      refine ⟨⟨fun _ => resolved, fun _ => ⟨output, rfl⟩⟩, ?_, ?_, ?_⟩
      · rintro _ ⟨⟩
        exact written
      · rintro _ ⟨⟩
      · exact fun other same => (splice_congr same).trans succeeded
    · obtain ⟨marker, failed, first⟩ := splice_unresolved resolved
      rw [failed]
      refine ⟨⟨?_, fun bound => absurd bound resolved⟩, ?_, ?_, ?_⟩
      · rintro ⟨_, ⟨⟩⟩
      · rintro _ ⟨⟩
      · rintro _ ⟨⟩
        exact first
      · exact fun other same => (splice_congr same).trans failed

-- The offset counts bytes, and neither what follows the marker nor its blanks make a difference.
example : splice "é--[[x]]--[[ y\t]]--[[z]]" (Dictionary.ofList [("x", "--[[y]]"), ("z", "")]) =
    .error ⟨"y", 9⟩ := by rfl

end ReqlLua.Template
