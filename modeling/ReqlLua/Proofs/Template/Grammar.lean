import ReqlLua.Proofs.Template.Scanning
import ReqlLua.Proofs.Text.Encoding
import ReqlLua.Proofs.Text.Trim

/-! The pieces of a template are what repeated search finds in the bytes of its source. The brackets and
the line feed are ASCII, so a search of the bytes and a search of the characters find the same. -/

namespace ReqlLua

open Text

/-- The text of a piece in the source, its marker included. -/
def Piece.source (piece : Piece) : String := piece.literal ++ "--[[" ++ piece.raw ++ "]]"

theorem Piece.source_toList (piece : Piece) :
    piece.source.toList =
      piece.literal.toList ++ Template.delimiters.around piece.raw.toList := by
  simp only [source, String.toList_append, List.append_assoc]
  rfl

namespace Template

open Delimiters

/-- The brackets and the line feed as bytes. -/
def byteDelimiters : Delimiters UInt8 := ⟨encode opener, encode closer, 0x0A⟩

theorem around_encode (raw : List Char) :
    byteDelimiters.around (encode raw) = encode (delimiters.around raw) := by
  rw [around_eq, encode_append, encode_append]
  rfl

theorem opener_ascii : ∀ c ∈ opener, IsAscii c := by
  simp [opener, IsAscii]

theorem closer_ascii : ∀ c ∈ closer, IsAscii c := by
  simp [closer, IsAscii]

theorem lineFeed_mem_encode {text : List Char} : 0x0A ∈ encode text ↔ '\n' ∈ text := by
  constructor
  · intro member
    obtain ⟨before, behind, split⟩ := List.append_of_mem member
    obtain ⟨first, last, rfl, -⟩ := encode_split_char (c := '\n') (by decide) _ split
    exact List.mem_append_right _ List.mem_cons_self
  · intro member
    obtain ⟨before, behind, rfl⟩ := List.append_of_mem member
    rw [encode_append, encode_cons, utf8_of_ascii (c := '\n') (by decide)]
    exact List.mem_append_right _ List.mem_cons_self

theorem starts_encode {text raw after : List Char} (starts : delimiters.Starts text raw after) :
    byteDelimiters.Starts (encode text) (encode raw) (encode after) := by
  refine ⟨?_, ?_, ?_⟩
  · rw [starts.split, encode_append, around_encode]
  · exact fun empty => starts.nonempty (encode_eq_nil empty)
  · exact fun member => starts.oneLine (lineFeed_mem_encode.1 member)

/-- A marker among the bytes is a marker among the characters. -/
theorem starts_of_encode {text : List Char} (before : List UInt8) {behind raw after : List UInt8}
    (split : encode text = before ++ behind) (starts : byteDelimiters.Starts behind raw after) :
    ∃ first last other rest, text = first ++ last ∧ encode first = before ∧
      delimiters.Starts last other rest ∧ encode other = raw := by
  have spelled : encode text = before ++ (encode opener ++ (raw ++ (encode closer ++ after))) := by
    rw [split, starts.split]
    simp only [around, byteDelimiters, List.append_assoc]
  obtain ⟨first, inside, rfl, rfl, opened⟩ := encode_split opener_ascii (by decide) spelled
  obtain ⟨other, rest, rfl, rfl, -⟩ := encode_split closer_ascii (by decide) opened
  refine ⟨first, opener ++ (other ++ (closer ++ rest)), other, rest, rfl, rfl, ⟨?_, ?_, ?_⟩, rfl⟩
  · simp only [around_eq, List.append_assoc]
  · exact fun empty => starts.nonempty (by rw [empty]; rfl)
  · exact fun member => starts.oneLine (lineFeed_mem_encode.2 member)

/-- Of two texts at the front of a third, the one that is no longer has no more bytes. -/
theorem length_encode_le {text first second rest last : List Char} (one : text = first ++ rest)
    (other : text = second ++ last) (short : first.length ≤ second.length) :
    (encode first).length ≤ (encode second).length := by
  obtain ⟨between, rfl⟩ := List.prefix_of_prefix_length_le (one ▸ List.prefix_append first rest)
    (other ▸ List.prefix_append second last) short
  rw [encode_append, List.length_append]
  exact Nat.le_add_right _ _

theorem first_encode {text literal raw rest : List Char}
    (first : delimiters.First text literal raw rest) :
    byteDelimiters.First (encode text) (encode literal) (encode raw)
      (encode rest) := by
  have behind : byteDelimiters.around (encode raw) ++ encode rest =
      encode (delimiters.around raw ++ rest) := by
    rw [around_encode, encode_append]
  refine ⟨?_, ?_, ?_, ?_⟩
  · rw [behind, ← encode_append, ← first.split]
  · rw [behind]
    exact starts_encode first.starts
  · intro other after starts
    rw [behind] at starts
    obtain ⟨front, last, longer, tail, split, empty, charStarts, rfl⟩ :=
      starts_of_encode [] rfl starts
    obtain rfl := encode_eq_nil empty
    obtain rfl : _ = last := split
    have same := charStarts.split
    simp only [around_eq, List.append_assoc] at same
    exact length_encode_le rfl (List.append_cancel_left same) (first.shortest charStarts)
  · intro before behind other after split starts
    obtain ⟨front, last, longer, tail, rfl, rfl, charStarts, rfl⟩ := starts_of_encode _ split starts
    exact length_encode_le first.split rfl (first.leftmost rfl charStarts)

theorem found_encode {text last : List Char} {marked : List (List Char × List Char)}
    (found : delimiters.Found text marked last) :
    byteDelimiters.Found (encode text)
      (marked.map fun piece => (encode piece.1, encode piece.2)) (encode last) := by
  induction found with
  | rest none =>
    refine .rest ?_
    intro before behind raw after split starts
    obtain ⟨first, last, other, rest, rfl, -, charStarts, -⟩ := starts_of_encode _ split starts
    exact none rfl charStarts
  | marker first later ih => exact .marker (first_encode first) ih

/-! ### Places -/

theorem place_cuts (start : Nat) (marked : List (List Char × List Char)) :
    (place start marked).map (fun piece => (piece.literal.toList, piece.raw.toList)) = marked := by
  induction marked generalizing start with
  | nil => rfl
  | cons piece later ih =>
    obtain ⟨literal, raw⟩ := piece
    simp only [place, List.map_cons, ih, String.toList_ofList]

/-- The offset of a piece counts the bytes before its marker. -/
theorem place_offset {start index : Nat} {marked : List (List Char × List Char)}
    (inside : index < (place start marked).length) :
    (place start marked)[index].offset =
      start + (String.join (((place start marked).take index).map Piece.source) ++
        (place start marked)[index].literal).utf8ByteSize := by
  induction marked generalizing start index with
  | nil => exact absurd inside (Nat.not_lt_zero _)
  | cons piece later ih =>
    obtain ⟨literal, raw⟩ := piece
    simp only [place] at inside ⊢
    cases index with
    | zero => simp [utf8ByteSize_eq_byteLength]
    | succ index =>
      simp only [List.length_cons, Nat.add_lt_add_iff_right] at inside
      simp only [List.getElem_cons_succ, List.take_succ_cons, List.map_cons, String.join_cons]
      have size (offset : Nat) :
          (Piece.source ⟨String.ofList literal, String.ofList raw, offset⟩).utf8ByteSize =
            byteLength literal + byteLength (opener ++ raw ++ closer) := by
        rw [utf8ByteSize_eq_byteLength, Piece.source_toList, byteLength_append, around_eq,
          String.toList_ofList, String.toList_ofList]
      rw [ih inside]
      simp only [String.utf8ByteSize_append, size]
      omega

theorem found_tiles {text last : List Char} {marked : List (List Char × List Char)}
    (found : delimiters.Found text marked last) :
    text = marked.flatMap (fun piece => piece.1 ++ delimiters.around piece.2) ++ last := by
  induction found with
  | rest => rfl
  | marker first later ih =>
    rw [first.split, ih, List.flatMap_cons]
    simp only [List.append_assoc]

theorem ofSource_finds (source : String) :
    delimiters.Found source.toList
      ((ofSource source).pieces.map fun piece => (piece.literal.toList, piece.raw.toList))
      (ofSource source).tail.toList := by
  obtain ⟨cuts, finds, same⟩ := scan_finds [] .outside source.toList trivial
  rw [List.reverse_nil, Cuts.extend_nil] at same
  simp only [ofSource, same, place_cuts, String.toList_ofList]
  exact finds

/-- The pieces of a template are those that repeated search finds in the bytes of the source, and no
others. They tile the source, the tail being the one literal without a marker behind it. A marker's
offset is the byte position of its opener, and its key is its text without the blanks at the ends. -/
theorem ofSource_repeats_search (source : String) :
    (∀ marked last, byteDelimiters.Found (bytes source) marked last ↔
      marked = (ofSource source).pieces.map (fun piece => (bytes piece.literal, bytes piece.raw)) ∧
        last = bytes (ofSource source).tail) ∧
    source = String.join ((ofSource source).pieces.map Piece.source) ++ (ofSource source).tail ∧
    (∀ index : Fin (ofSource source).pieces.length,
      (ofSource source).pieces[index].offset =
        (bytes (String.join (((ofSource source).pieces.take index).map Piece.source) ++
          (ofSource source).pieces[index].literal)).length) ∧
    ∀ index : Fin (ofSource source).pieces.length,
      Trimmed (ofSource source).pieces[index].raw.toList
        (ofSource source).pieces[index].key.toList := by
  have found := ofSource_finds source
  refine ⟨?_, ?_, ?_, ?_⟩
  · have encoded := found_encode found
    simp only [List.map_map, Function.comp_def, ← bytes_eq_encode] at encoded
    intro marked last
    constructor
    · exact fun other => other.unique encoded
    · rintro ⟨rfl, rfl⟩
      exact encoded
  · have tiles := found_tiles found
    rw [List.flatMap_map] at tiles
    simp only [← Piece.source_toList] at tiles
    apply String.toList_inj.1
    rw [String.toList_append, String.toList_join, List.flatMap_map]
    exact tiles
  · rintro ⟨index, inside⟩
    rw [bytes_eq_encode, length_encode, ← utf8ByteSize_eq_byteLength]
    have offset := place_offset inside
    rw [Nat.zero_add] at offset
    exact offset
  · intro index
    rw [Piece.key, String.toList_ofList]
    exact trim_trimmed _

-- The first closer that counts is one character after the opener, so the key is a bracket.
example : ofSource "--[[]]] b" = ⟨[⟨"", "]", 0⟩], " b"⟩ := by decide

end Template

end ReqlLua
