import Mathlib.Data.List.Chain
import ReqlLua.Lua.Blocks

/-! Packing of names into lines. The lines hold the names in order, a line of several names is shorter than
the width, and no line has room for the first name of the next one. There is only one way to do that. -/

namespace ReqlLua.Lua

/-! ### Lengths of lines -/

/-- The length of a line in bytes. -/
def lineLength (group : List String) : Nat := (declaration group).utf8ByteSize

/-- The length of what stands behind the first name of a line: the others, each behind a separator. -/
def laterLength : List String → Nat
  | [] => 0
  | name :: names => ", ".utf8ByteSize + name.utf8ByteSize + laterLength names

theorem laterLength_append (group more : List String) :
    laterLength (group ++ more) = laterLength group + laterLength more := by
  induction group with
  | nil => exact (Nat.zero_add _).symm
  | cons name group ih =>
    rw [List.cons_append, laterLength, laterLength, ih]
    exact (Nat.add_assoc _ _ _).symm

theorem utf8ByteSize_intercalate (name : String) (group : List String) :
    (", ".intercalate (name :: group)).utf8ByteSize = name.utf8ByteSize + laterLength group := by
  induction group generalizing name with
  | nil => rw [String.intercalate_singleton, laterLength, Nat.add_zero]
  | cons next group ih =>
    rw [String.intercalate_cons_of_ne_nil (List.cons_ne_nil next group),
      String.utf8ByteSize_append, String.utf8ByteSize_append, ih, laterLength, Nat.add_assoc,
      Nat.add_assoc]

/-- A line grows by a separator and a name for each name behind the first. -/
theorem lineLength_cons (name : String) (group : List String) :
    lineLength (name :: group) = "local ".utf8ByteSize + name.utf8ByteSize + laterLength group := by
  rw [lineLength, declaration, String.utf8ByteSize_append, utf8ByteSize_intercalate, Nat.add_assoc]

theorem lineLength_single (name : String) :
    lineLength [name] = "local ".utf8ByteSize + name.utf8ByteSize := by
  rw [lineLength_cons, laterLength, Nat.add_zero]

theorem lineLength_append {group : List String} (started : group ≠ []) (more : List String) :
    lineLength (group ++ more) = lineLength group + laterLength more := by
  obtain ⟨first, others, rfl⟩ := List.exists_cons_of_ne_nil started
  rw [List.cons_append, lineLength_cons, lineLength_cons, laterLength_append]
  exact (Nat.add_assoc _ _ _).symm

theorem lineLength_concat {group : List String} (started : group ≠ []) (name : String) :
    lineLength (group ++ [name]) = lineLength group + ", ".utf8ByteSize + name.utf8ByteSize := by
  rw [lineLength_append started, laterLength, laterLength, Nat.add_zero, Nat.add_assoc]

theorem lineLength_le_append {group : List String} (started : group ≠ []) (more : List String) :
    lineLength group ≤ lineLength (group ++ more) := by
  rw [lineLength_append started]
  exact Nat.le_add_right _ _

/-! ### Cuts -/

section

/-- A way to cut names into lines: in order, none of them empty, and each that has more than one name
shorter than the width. -/
structure IsCut (width : Nat) (names : List String) (groups : List (List String)) : Prop where
  flatten : groups.flatten = names
  nonempty : ∀ group ∈ groups, group ≠ []
  fits : ∀ group ∈ groups, 2 ≤ group.length → lineLength group < width

/-- The line has no room for the first name of the next one. -/
def IsFull (width : Nat) (group next : List String) : Prop :=
  ∀ name ∈ next.head?, width ≤ lineLength group + ", ".utf8ByteSize + name.utf8ByteSize

/-- A cut in which every line is full when the next one starts. -/
structure IsPacked (width : Nat) (names : List String) (groups : List (List String)) : Prop
    extends IsCut width names groups where
  full : groups.IsChain (IsFull width)

variable {width : Nat} {names : List String} {groups : List (List String)}

theorem IsCut.tail {group : List String} (cut : IsCut width names (group :: groups)) :
    IsCut width groups.flatten groups :=
  ⟨rfl, fun _ member => cut.nonempty _ (List.mem_cons_of_mem _ member),
    fun _ member => cut.fits _ (List.mem_cons_of_mem _ member)⟩

theorem IsCut.cons {group : List String} (started : group ≠ [])
    (fits : 2 ≤ group.length → lineLength group < width) (cut : IsCut width names groups) :
    IsCut width (group ++ names) (group :: groups) :=
  ⟨by rw [List.flatten_cons, cut.flatten], List.forall_mem_cons.2 ⟨started, cut.nonempty⟩,
    List.forall_mem_cons.2 ⟨fits, cut.fits⟩⟩

theorem IsCut.eq_nil (cut : IsCut width [] groups) : groups = [] := by
  cases groups with
  | nil => rfl
  | cons group groups =>
    have empty : group ++ groups.flatten = [] := cut.flatten
    exact (cut.nonempty group List.mem_cons_self (List.append_eq_nil_iff.1 empty).1).elim

theorem IsPacked.tail {group : List String} (packed : IsPacked width names (group :: groups)) :
    IsPacked width groups.flatten groups :=
  ⟨packed.toIsCut.tail, packed.full.tail⟩

/-- No cut has more names on its first line. -/
theorem IsPacked.first_longest {group other : List String} {others : List (List String)}
    (packed : IsPacked width names (group :: groups)) (cut : IsCut width names (other :: others)) :
    other <+: group := by
  have same : group ++ groups.flatten = other ++ others.flatten :=
    packed.flatten.trans cut.flatten.symm
  rcases List.append_eq_append_iff.1 same with ⟨more, longer, behind⟩ | ⟨more, shorter, -⟩
  · cases more with
    | nil => exact ⟨[], by rw [longer, List.append_nil, List.append_nil]⟩
    | cons name more =>
      -- The first name of the next line stands on the other's first line, where there is no room for it.
      exfalso
      have started : group ≠ [] := packed.nonempty group List.mem_cons_self
      cases groups with
      | nil => cases behind
      | cons next later =>
        have startedNext : next ≠ [] :=
          packed.nonempty next (List.mem_cons_of_mem _ List.mem_cons_self)
        obtain ⟨first, rest, rfl⟩ := List.exists_cons_of_ne_nil startedNext
        obtain ⟨rfl, -⟩ := List.cons_eq_cons.1 behind
        have full : IsFull width group (first :: rest) := (List.isChain_cons_cons.1 packed.full).1
        have room := full first rfl
        have several : 2 ≤ other.length := by
          have one := List.length_pos_iff.2 started
          rw [longer, List.length_append, List.length_cons]
          omega
        have short := cut.fits other List.mem_cons_self several
        have started' : group ++ [first] ≠ [] := by simp
        have grown := lineLength_le_append started' more
        rw [List.append_assoc, List.singleton_append, ← longer, lineLength_concat started] at grown
        omega
  · exact ⟨more, shorter.symm⟩

/-- Names are packed in one way only. -/
theorem IsPacked.unique {others : List (List String)} (packed : IsPacked width names groups)
    (packed' : IsPacked width names others) : groups = others := by
  induction groups generalizing names others with
  | nil =>
    obtain rfl : names = [] := packed.flatten.symm
    exact packed'.toIsCut.eq_nil.symm
  | cons group groups ih =>
    cases others with
    | nil =>
      obtain rfl : names = [] := packed'.flatten.symm
      exact packed.toIsCut.eq_nil
    | cons other others =>
      have first : group = other := (packed'.first_longest packed.toIsCut).eq_of_length_le
        (packed.first_longest packed'.toIsCut).length_le
      have same : group ++ groups.flatten = other ++ others.flatten :=
        packed.flatten.trans packed'.flatten.symm
      rw [first, List.append_cancel_left_eq] at same
      have later := packed'.tail
      rw [← same] at later
      rw [first, ih packed.tail later]

end

/-! ### The cut that is made -/

theorem head_cut (width : Nat) (line : List String) (length : Nat) (names : List String) :
    ∃ more groups, cut width line length names = (line.reverse ++ more) :: groups := by
  induction names generalizing line length with
  | nil => exact ⟨[], [], by rw [cut, List.append_nil]⟩
  | cons name rest ih =>
    rw [cut]
    split
    · obtain ⟨more, groups, same⟩ :=
        ih (name :: line) (length + ", ".utf8ByteSize + name.utf8ByteSize)
      refine ⟨name :: more, groups, ?_⟩
      rw [same, List.reverse_cons, List.append_assoc, List.singleton_append]
    · exact ⟨[], _, by rw [List.append_nil]⟩

/-- Names are packed behind an unfinished line that fits. -/
theorem isPacked_cut {width : Nat} {line group : List String} (reversed : line.reverse = group)
    (started : group ≠ []) (fits : 2 ≤ group.length → lineLength group < width) {length : Nat}
    (measured : length = lineLength group) (names : List String) :
    IsPacked width (group ++ names) (cut width line length names) := by
  -- The unfinished line is generalised: it grows by a name, or a new one with a single name is begun.
  induction names generalizing line group length with
  | nil =>
    have none : IsCut width [] [] := ⟨rfl, by simp, by simp⟩
    rw [cut, reversed]
    exact ⟨none.cons started fits, .singleton group⟩
  | cons name rest ih =>
    rw [cut, measured, ← lineLength_concat started]
    split
    · next room =>
      have reversed' : (name :: line).reverse = group ++ [name] := by
        rw [List.reverse_cons, reversed]
      have grown := ih reversed' (by simp) (fun _ => room) rfl
      rwa [List.append_assoc, List.singleton_append] at grown
    · next tight =>
      have alone : [name].reverse = [name] := rfl
      have later := ih alone (List.cons_ne_nil name []) (by simp) (lineLength_single name).symm
      obtain ⟨more, groups, head⟩ :=
        head_cut width [name] ("local ".utf8ByteSize + name.utf8ByteSize) rest
      have chained := later.full
      refine ⟨reversed.symm ▸ later.toIsCut.cons started fits, ?_⟩
      rw [head] at chained ⊢
      refine List.isChain_cons_cons.2 ⟨?_, chained⟩
      rintro _ ⟨⟩
      rw [reversed, ← lineLength_concat started]
      exact Nat.le_of_not_lt tight

theorem isPacked_nameGroups (width : Nat) (names : List String) :
    IsPacked width names (nameGroups width names) := by
  cases names with
  | nil => exact ⟨⟨rfl, by simp [nameGroups], by simp [nameGroups]⟩, .nil⟩
  | cons name rest =>
    have alone : [name].reverse = [name] := rfl
    exact isPacked_cut alone (List.cons_ne_nil name []) (by simp) (lineLength_single name).symm rest

theorem flatten_nameGroups (width : Nat) (names : List String) :
    (nameGroups width names).flatten = names :=
  (isPacked_nameGroups width names).flatten

theorem ne_nil_of_mem_nameGroups {width : Nat} {names group : List String}
    (member : group ∈ nameGroups width names) : group ≠ [] :=
  (isPacked_nameGroups width names).nonempty group member

theorem mem_of_mem_nameGroups {width : Nat} {names group : List String}
    (member : group ∈ nameGroups width names) {name : String} (among : name ∈ group) :
    name ∈ names := by
  rw [← flatten_nameGroups width names]
  exact List.mem_flatten_of_mem member among

theorem nameGroups_ne_nil {width : Nat} {names : List String} (nonempty : names ≠ []) :
    nameGroups width names ≠ [] := by
  intro empty
  apply nonempty
  rw [← flatten_nameGroups width names, empty, List.flatten_nil]

/-! ### The text -/

/-- The text of packed names, a line for each group. -/
def IsPacking (width : Nat) (names : List String) (text : String) : Prop :=
  ∃ groups, IsPacked width names groups ∧ text = "\n".intercalate (groups.map declaration)

/-- The declarations are the one text of the packed names, which is empty if there are no names. -/
theorem isPacking_iff (width : Nat) (identifiers : List String) :
    (∀ text, IsPacking width identifiers text ↔ text = names width identifiers) ∧
      names width [] = "" := by
  have packed := isPacked_nameGroups width identifiers
  refine ⟨fun text => ⟨?_, ?_⟩, rfl⟩
  · rintro ⟨groups, packed', rfl⟩
    rw [packed'.unique packed, names]
  · rintro rfl
    exact ⟨_, packed, rfl⟩

end ReqlLua.Lua
