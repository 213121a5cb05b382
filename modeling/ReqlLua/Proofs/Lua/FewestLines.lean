import ReqlLua.Proofs.Lua.Reading

/-! Packed names take the fewest lines. Of all ways to cut names into lines that are shorter than the width,
or hold a single name, none has fewer lines than the one that is made. -/

namespace ReqlLua.Lua

section

variable {width : Nat} {names : List String} {groups : List (List String)}

/-! ### Fewer names -/

theorem lineLength_le_cons (name : String) {group : List String} (started : group ≠ []) :
    lineLength group ≤ lineLength (name :: group) := by
  obtain ⟨first, others, rfl⟩ := List.exists_cons_of_ne_nil started
  rw [lineLength_cons, lineLength_cons, laterLength]
  omega

/-- Without its first name a cut is one of the other names, and has no more lines. -/
theorem IsCut.without_first {name : String} (cut : IsCut width (name :: names) groups) :
    ∃ others, IsCut width names others ∧ others.length ≤ groups.length := by
  cases groups with
  | nil => cases cut.flatten
  | cons group groups =>
    obtain ⟨first, rest, rfl⟩ :=
      List.exists_cons_of_ne_nil (cut.nonempty group List.mem_cons_self)
    obtain ⟨rfl, same⟩ := List.cons_eq_cons.1 cut.flatten
    cases rest with
    | nil => exact ⟨groups, same ▸ cut.tail, Nat.le_succ _⟩
    | cons second rest =>
      have started : second :: rest ≠ [] := List.cons_ne_nil second rest
      have fits (several : 2 ≤ (second :: rest).length) : lineLength (second :: rest) < width :=
        Nat.lt_of_le_of_lt (lineLength_le_cons first started)
          (cut.fits _ List.mem_cons_self (Nat.le_succ_of_le several))
      exact ⟨(second :: rest) :: groups, same ▸ cut.tail.cons started fits, Nat.le_refl _⟩

theorem IsCut.without_front {front : List String} (cut : IsCut width (front ++ names) groups) :
    ∃ others, IsCut width names others ∧ others.length ≤ groups.length := by
  induction front generalizing groups with
  | nil => exact ⟨groups, cut, Nat.le_refl _⟩
  | cons name front ih =>
    obtain ⟨others, cut, le⟩ := cut.without_first
    obtain ⟨fewer, cut, le'⟩ := ih cut
    exact ⟨fewer, cut, Nat.le_trans le' le⟩

/-! ### Fewest lines -/

/-- The first line of packed names reaches at least as far as that of any cut, so there are no more names
to go behind it. -/
theorem IsPacked.length_le {others : List (List String)} (packed : IsPacked width names groups)
    (cut : IsCut width names others) : groups.length ≤ others.length := by
  induction groups generalizing names others with
  | nil => exact Nat.zero_le _
  | cons group groups ih =>
    cases others with
    | nil =>
      obtain rfl : names = [] := cut.flatten.symm
      rw [packed.toIsCut.eq_nil]
    | cons other others =>
      obtain ⟨extra, rfl⟩ := packed.first_longest cut
      have same : other ++ (extra ++ groups.flatten) = other ++ others.flatten := by
        rw [← List.append_assoc]
        exact packed.flatten.trans cut.flatten.symm
      rw [List.append_cancel_left_eq] at same
      have behind := cut.tail
      rw [← same] at behind
      obtain ⟨fewer, behind, le⟩ := behind.without_front
      exact Nat.succ_le_succ (Nat.le_trans (ih packed.tail behind) le)

theorem IsCut.widen {wider : Nat} (le : width ≤ wider) (cut : IsCut width names groups) :
    IsCut wider names groups :=
  ⟨cut.flatten, cut.nonempty, fun group member several =>
    Nat.lt_of_lt_of_le (cut.fits group member several) le⟩

end

/-! ### Lines of the text -/

/-- The number of lines of a text. An empty text has none. -/
def lineCount (text : String) : Nat :=
  if text = "" then 0 else (Text.splitAt "\n".toList text.toList).length

theorem declaration_ne_empty (group : List String) : declaration group ≠ "" := by
  intro empty
  have lead : "local ".toList ++ (", ".intercalate group).toList = [] := by
    rw [← String.toList_append]
    exact congrArg String.toList empty
  cases (List.append_eq_nil_iff.1 lead).1

theorem names_ne_empty (width : Nat) {identifiers : List String} (nonempty : identifiers ≠ [])
    (oneLine : ∀ identifier ∈ identifiers, '\n' ∉ identifier.toList) :
    names width identifiers ≠ "" := by
  intro empty
  have lines := splitAt_names width nonempty oneLine
  obtain ⟨group, groups, shape⟩ := List.exists_cons_of_ne_nil (nameGroups_ne_nil nonempty)
  have blank : Text.splitAt "\n".toList "".toList = [[]] := by decide +kernel
  rw [empty, blank, shape, List.map_cons, List.map_cons] at lines
  exact declaration_ne_empty group (String.toList_injective (List.cons_eq_cons.1 lines).1.symm)

theorem lineCount_names (width : Nat) {identifiers : List String}
    (oneLine : ∀ identifier ∈ identifiers, '\n' ∉ identifier.toList) :
    lineCount (names width identifiers) = (nameGroups width identifiers).length := by
  by_cases nonempty : identifiers = []
  · rw [nonempty]
    rfl
  · rw [lineCount, if_neg (names_ne_empty width nonempty oneLine),
      splitAt_names width nonempty oneLine, List.length_map, List.length_map]

/-- The names are cut into lines in one of the ways there are, none of which has fewer lines. So a greater
width never makes for more lines. -/
theorem names_fewest_lines (width : Nat) {identifiers : List String}
    (oneLine : ∀ identifier ∈ identifiers, '\n' ∉ identifier.toList) :
    (∃ groups, IsCut width identifiers groups ∧
      names width identifiers = "\n".intercalate (groups.map declaration) ∧
      lineCount (names width identifiers) = groups.length) ∧
    (∀ groups, IsCut width identifiers groups →
      lineCount (names width identifiers) ≤ groups.length) ∧
    ∀ wider, width ≤ wider →
      lineCount (names wider identifiers) ≤ lineCount (names width identifiers) := by
  have packed := isPacked_nameGroups width identifiers
  rw [lineCount_names width oneLine]
  refine ⟨⟨_, packed.toIsCut, rfl, rfl⟩, fun groups cut => packed.length_le cut, ?_⟩
  intro wider le
  rw [lineCount_names wider oneLine]
  exact (isPacked_nameGroups wider identifiers).length_le (packed.toIsCut.widen le)

/-- A name that is too long for any line stands between others. -/
theorem names_fewest_lines_narrow :
    let identifiers := ["ADD", "BETWEEN_DEPRECATED", "AND", "OR"]
    names 16 identifiers = "local ADD\nlocal BETWEEN_DEPRECATED\nlocal AND, OR" ∧
      (∀ groups, IsCut 16 identifiers groups → 3 ≤ groups.length) ∧
      lineCount (names 77 identifiers) ≤ 3 := by
  intro identifiers
  have oneLine : ∀ identifier ∈ identifiers, '\n' ∉ identifier.toList := by decide
  have three : lineCount (names 16 identifiers) = 3 := lineCount_names 16 oneLine
  obtain ⟨-, fewest, wider⟩ := names_fewest_lines 16 oneLine
  rw [three] at fewest wider
  exact ⟨by decide +kernel, fewest, wider 77 (by decide)⟩

end ReqlLua.Lua
