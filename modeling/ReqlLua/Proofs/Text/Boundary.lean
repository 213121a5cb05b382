import ReqlLua.Proofs.Text.Encoding

/-! Byte positions in texts. A text can be cut only between its characters; where ASCII text stands among
the bytes, both of its ends are such places. -/

namespace ReqlLua.Text

/-- A character of the text starts at this byte, or the text ends there. -/
abbrev IsBoundary (text : String) (position : Nat) : Prop := String.Pos.Raw.IsValid text ⟨position⟩

theorem isBoundary_iff {text : String} {position : Nat} :
    IsBoundary text position ↔
      ∃ before behind, text.toList = before ++ behind ∧ byteLength before = position := by
  rw [IsBoundary, String.Pos.Raw.isValid_iff_exists_append]
  constructor
  · rintro ⟨first, second, rfl, same⟩
    refine ⟨first.toList, second.toList, String.toList_append, ?_⟩
    rw [← utf8ByteSize_eq_byteLength]
    exact (congrArg String.Pos.Raw.byteIdx same).symm
  · rintro ⟨before, behind, split, rfl⟩
    refine ⟨String.ofList before, String.ofList behind, ?_, ?_⟩
    · rw [← String.ofList_append, ← split, String.ofList_toList]
    · apply String.Pos.Raw.ext
      rw [String.byteIdx_rawEndPos, utf8ByteSize_eq_byteLength, String.toList_ofList]

theorem isBoundary_end (text : String) : IsBoundary text text.utf8ByteSize :=
  String.Pos.Raw.isValid_rawEndPos

/-! ### Slices -/

/-- Both ends lie between characters of the text, the first not behind the second. -/
structure Sliceable (text : String) (start stop : Nat) : Prop where
  ordered : start ≤ stop
  within : stop ≤ text.utf8ByteSize
  starts : IsBoundary text start
  stops : IsBoundary text stop

theorem sliceable_of_boundaries {text : String} {start stop : Nat} (ordered : start ≤ stop)
    (starts : IsBoundary text start) (stops : IsBoundary text stop) : Sliceable text start stop :=
  ⟨ordered, stops.le_utf8ByteSize, starts, stops⟩

instance (text : String) (start stop : Nat) : Decidable (Sliceable text start stop) :=
  decidable_of_iff (start ≤ stop ∧ IsBoundary text start ∧ IsBoundary text stop)
    ⟨fun ⟨ordered, starts, stops⟩ => sliceable_of_boundaries ordered starts stops,
      fun sliceable => ⟨sliceable.ordered, sliceable.starts, sliceable.stops⟩⟩

/-- The text from one byte up to another, if it can be cut there. -/
def slice? (text : String) (start stop : Nat) : Option String :=
  if sliceable : Sliceable text start stop then
    some (text.extract (text.pos ⟨start⟩ sliceable.starts) (text.pos ⟨stop⟩ sliceable.stops))
  else none

theorem slice?_isSome_iff {text : String} {start stop : Nat} :
    (slice? text start stop).isSome = true ↔ Sliceable text start stop := by
  unfold slice?
  split <;> simp_all

-- Nothing can be cut out in the middle of a character.
example : slice? "aé" 0 2 = none := by decide

theorem extract_between (first second third : ByteArray) :
    (first ++ (second ++ third)).extract first.size (first.size + second.size) = second :=
  (ByteArray.extract_append_size_add (i := 0)).trans (ByteArray.extract_append_eq_left rfl)

theorem slice?_between {text : String} {before middle behind : List Char}
    (split : text.toList = before ++ (middle ++ behind)) :
    slice? text (byteLength before) (byteLength (before ++ middle)) = some (String.ofList middle) := by
  have sliceable : Sliceable text (byteLength before) (byteLength (before ++ middle)) := by
    apply sliceable_of_boundaries
    · rw [byteLength_append]
      exact Nat.le_add_right _ _
    · exact isBoundary_iff.2 ⟨before, middle ++ behind, split, rfl⟩
    · exact isBoundary_iff.2 ⟨before ++ middle, behind, by rw [split, List.append_assoc], rfl⟩
  rw [slice?, dif_pos sliceable]
  have parts : text = String.ofList before ++ (String.ofList middle ++ String.ofList behind) := by
    rw [← String.ofList_append, ← String.ofList_append, ← split, String.ofList_toList]
  have size (chars : List Char) : byteLength chars = (String.ofList chars).toByteArray.size := by
    rw [String.size_toByteArray, utf8ByteSize_eq_byteLength, String.toList_ofList]
  apply congrArg some
  apply String.toByteArray_inj.1
  rw [String.toByteArray_extract, String.offset_pos, String.offset_pos, parts, String.toByteArray_append,
    String.toByteArray_append, byteLength_append, size, size, extract_between]

/-! ### ASCII text among the bytes -/

/-- The bytes from this position on begin with those of the pattern. -/
def StandsAt (text : String) (pattern : List Char) (position : Nat) : Prop :=
  encode pattern <+: (bytes text).drop position

instance (text : String) (pattern : List Char) (position : Nat) : Decidable (StandsAt text pattern position) :=
  inferInstanceAs (Decidable (encode pattern <+: (bytes text).drop position))

section

variable {text : String} {pattern before rest : List Char} {position : Nat}

theorem standsAt_of_split (split : text.toList = before ++ (pattern ++ rest)) :
    StandsAt text pattern (byteLength before) := by
  rw [StandsAt, bytes_eq_encode, split, encode_append, ← length_encode, List.drop_left, encode_append]
  exact List.prefix_append _ _

variable (ascii : ∀ c ∈ pattern, IsAscii c) (nonempty : pattern ≠ [])

include ascii nonempty

/-- Where the bytes of ASCII text stand, the text has the ASCII text itself. -/
theorem split_of_standsAt (stands : StandsAt text pattern position) :
    ∃ before behind, text.toList = before ++ (pattern ++ behind) ∧ byteLength before = position := by
  obtain ⟨behind, follows⟩ := stands
  have inside : position ≤ (bytes text).length := by
    refine Nat.le_of_not_lt fun beyond => nonempty (encode_eq_nil ?_)
    rw [List.drop_of_length_le (Nat.le_of_lt beyond)] at follows
    exact (List.append_eq_nil_iff.1 follows).1
  have split : encode text.toList = (bytes text).take position ++ (encode pattern ++ behind) := by
    rw [follows, List.take_append_drop, bytes_eq_encode]
  obtain ⟨front, back, same, length, -⟩ := encode_split ascii nonempty split
  refine ⟨front, back, same, ?_⟩
  rw [← length_encode, length, List.length_take, Nat.min_eq_left inside]

theorem StandsAt.boundaries (stands : StandsAt text pattern position) :
    IsBoundary text position ∧ IsBoundary text (position + byteLength pattern) := by
  obtain ⟨before, behind, split, rfl⟩ := split_of_standsAt ascii nonempty stands
  refine ⟨isBoundary_iff.2 ⟨before, _, split, rfl⟩, isBoundary_iff.2 ⟨before ++ pattern, behind, ?_, ?_⟩⟩
  · rw [split, List.append_assoc]
  · rw [byteLength_append]

/-- Inside the bytes of a character no ASCII text stands but at the first of them. -/
theorem front_of_standsAt {c : Char} {skipped : Nat} (split : text.toList = before ++ c :: rest)
    (short : skipped < c.utf8Size) (stands : StandsAt text pattern (byteLength before + skipped)) :
    skipped = 0 ∧ pattern <+: c :: rest := by
  obtain ⟨front, back, split', length⟩ := split_of_standsAt ascii nonempty stands
  rcases List.append_eq_append_iff.1 (split.symm.trans split') with
    ⟨between, rfl, follows⟩ | ⟨between, rfl, follows⟩
  · cases between with
    | nil =>
      rw [List.append_nil] at length
      exact ⟨by omega, back, follows.symm⟩
    | cons d between =>
      obtain ⟨rfl, -⟩ := List.cons_eq_cons.1 follows
      simp only [byteLength_append, byteLength_cons] at length
      omega
  · cases between with
    | nil =>
      rw [List.append_nil] at length
      exact ⟨by omega, back, follows⟩
    | cons d between =>
      have positive := d.utf8Size_pos
      simp only [byteLength_append, byteLength_cons] at length
      omega

end

end ReqlLua.Text
