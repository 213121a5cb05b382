import ReqlLua.Proofs.Dictionary.History
import ReqlLua.Proofs.Lua.Table

/-! The text of an enumeration with any names on one line each. It lists every entry once, in the order of
tags and then of names, and the entries can be told from it even where the names hold the signs of a line. -/

namespace ReqlLua.Lua

variable {first second third : String × Int64} {enumeration other : Enumeration}

/-! ### The order of the lines -/

/-- The smaller tag comes first, and of two entries with one tag the smaller name. -/
def Precedes (first second : String × Int64) : Prop :=
  first.2 < second.2 ∨ first.2 = second.2 ∧ first.1 < second.1

theorem tagOrder_iff :
    Enumeration.tagOrder first second = true ↔
      first.2 < second.2 ∨ first.2 = second.2 ∧ first.1 ≤ second.1 := by
  simp [Enumeration.tagOrder]

theorem tagOrder_trans (less : Enumeration.tagOrder first second = true)
    (more : Enumeration.tagOrder second third = true) : Enumeration.tagOrder first third = true := by
  rw [tagOrder_iff] at less more ⊢
  rcases less with less | ⟨same, less⟩
  · rcases more with more | ⟨same', -⟩
    · exact .inl (Int64.lt_trans less more)
    · exact .inl (same' ▸ less)
  · rw [same]
    exact more.imp_right fun ⟨same', more⟩ => ⟨same', less.trans more⟩

theorem tagOrder_total (first second : String × Int64) :
    (Enumeration.tagOrder first second || Enumeration.tagOrder second first) = true := by
  rw [Bool.or_eq_true, tagOrder_iff, tagOrder_iff]
  by_cases same : first.2 = second.2
  · exact (le_total first.1 second.1).imp (fun le => .inr ⟨same, le⟩) fun le => .inr ⟨same.symm, le⟩
  · exact (Int64.lt_or_lt_of_ne same).imp .inl .inl

/-- Entries with different names stand strictly in order. -/
theorem precedes_of_tagOrder (ordered : Enumeration.tagOrder first second = true) (apart : first.1 ≠ second.1) :
    Precedes first second :=
  (tagOrder_iff.1 ordered).imp_right fun ⟨same, le⟩ => ⟨same, lt_of_le_of_ne le apart⟩

theorem byTag_perm (enumeration : Enumeration) : enumeration.byTag.Perm enumeration.entries :=
  List.mergeSort_perm _ _

theorem pairwise_byTag (enumeration : Enumeration) : enumeration.byTag.Pairwise Precedes := by
  have ordered : enumeration.byTag.Pairwise fun first second => Enumeration.tagOrder first second = true :=
    @List.pairwise_mergeSort _ Enumeration.tagOrder (fun _ _ _ less more => tagOrder_trans less more)
      tagOrder_total enumeration.entries
  have distinct : enumeration.byTag.Pairwise fun first second => first.1 ≠ second.1 := by
    have names : (enumeration.byTag.map (·.1)).Nodup :=
      ((byTag_perm enumeration).map _).nodup_iff.2 (Dictionary.nodup_of_sorted enumeration.sorted)
    exact List.pairwise_map.1 names
  exact (ordered.and distinct).imp fun ⟨ordered, apart⟩ => precedes_of_tagOrder ordered apart

/-! ### Reading the lines -/

/-- Name and number of a line. The last equals sign divides them, for the name may hold others. -/
def entryOfLine? (line : List Char) : Option (String × Int) :=
  (Text.cutAt? " = ".toList (line.drop 2).dropLast.reverse).map fun cut =>
    (String.ofList cut.2.reverse, Text.signedValue cut.1.reverse)

/-- The entries between the first line and the last. -/
def entriesOfLines? (text : String) : Option (List (String × Int)) :=
  (Text.splitAt "\n".toList text.toList).tail.dropLast.mapM entryOfLine?

theorem entryOfLine?_tableLine (name : String) (tag : Int64) :
    entryOfLine? (tableLine (name, tag)).toList = some (name, tag.toInt) := by
  have unmarked : '=' ∉ (toString tag.toInt).toList.reverse := fun member =>
    Text.not_mem_toString (by decide) (by decide) (List.mem_reverse.1 member)
  have backwards : (name.toList ++ (" = ".toList ++ (toString tag.toInt).toList)).reverse =
      (toString tag.toInt).toList.reverse ++ (" = ".toList ++ name.toList.reverse) := by
    simp only [List.reverse_append, List.append_assoc]
    rfl
  rw [entryOfLine?, tableLine_toList, show 2 = "  ".toList.length from rfl, List.drop_left,
    List.dropLast_concat, backwards, Text.cutAt?_separated (by decide) _ unmarked]
  simp only [Option.map_some, List.reverse_reverse, String.ofList_toList, Text.signedValue_toString]

/-- The entries are read back from any text whose names keep to their lines. -/
theorem entriesOfLines?_lua (free : ∀ name ∈ enumeration.keys, '\n' ∉ name.toList) :
    entriesOfLines? enumeration.lua = some (enumeration.byTag.map fun entry => (entry.1, entry.2.toInt)) := by
  rw [entriesOfLines?, splitAt_lua free, List.tail_cons, List.dropLast_concat, List.map_map]
  exact mapM_of_forall fun entry _ => entryOfLine?_tableLine entry.1 entry.2

theorem lua_injective (free : ∀ name ∈ enumeration.keys, '\n' ∉ name.toList)
    (free' : ∀ name ∈ other.keys, '\n' ∉ name.toList) (same : other.lua = enumeration.lua) :
    other = enumeration := by
  have read := entriesOfLines?_lua free'
  rw [same, entriesOfLines?_lua free] at read
  have injective : Function.Injective fun entry : String × Int64 => (entry.1, entry.2.toInt) := by
    intro first second equal
    obtain ⟨names, tags⟩ := Prod.mk.inj equal
    exact Prod.ext names (Int64.toInt_inj.1 tags)
  have listed : enumeration.byTag = other.byTag := injective.list_map (Option.some.inj read)
  apply Dictionary.eq_of_get?
  intro name
  apply Option.ext
  intro tag
  rw [← Dictionary.mem_entries_iff, ← Dictionary.mem_entries_iff, ← (byTag_perm other).mem_iff, ← listed,
    (byTag_perm enumeration).mem_iff]

/-! ### Enumerations however they were built -/

/-- Entries that were collected, and then others that were inserted one by one. -/
def built (collected inserted : List (String × Int64)) : Enumeration :=
  inserted.foldl (fun enumeration entry => enumeration.insert entry.1 entry.2) (.ofList collected)

theorem get?_built (collected inserted : List (String × Int64)) (name : String) :
    (built collected inserted).get? name =
      (Dictionary.valuesOf name (collected ++ inserted)).getLast? := by
  rw [← Dictionary.get?_ofList_valuesOf, Dictionary.ofList, List.foldl_append]
  rfl

/-- However an enumeration was built, of two entries with one name the later counts, and its text has one line
for each entry that counts, in strict order of tags and then of names. Where no name breaks a line, the entries
are read back from the text, and no other such enumeration has the same text. -/
theorem lua_lists_by_tag {collected inserted : List (String × Int64)}
    (free : ∀ name ∈ (built collected inserted).keys, '\n' ∉ name.toList) :
    (∃ listed : List (String × Int64),
      (built collected inserted).lua = "\n".intercalate ("\x7b" :: listed.map tableLine ++ ["\x7d"]) ∧
      listed.Pairwise Precedes ∧
      (∀ name tag, (name, tag) ∈ listed ↔
        (Dictionary.valuesOf name (collected ++ inserted)).getLast? = some tag) ∧
      entriesOfLines? (built collected inserted).lua =
        some (listed.map fun entry => (entry.1, entry.2.toInt))) ∧
    ∀ other : Enumeration, (∀ name ∈ other.keys, '\n' ∉ name.toList) →
      other.lua = (built collected inserted).lua → other = built collected inserted := by
  refine ⟨⟨(built collected inserted).byTag, lua_eq_lines _, pairwise_byTag _, ?_, entriesOfLines?_lua free⟩, ?_⟩
  · intro name tag
    rw [(byTag_perm _).mem_iff, Dictionary.mem_entries_iff, get?_built]
  · exact fun other free' same => lua_injective free free' same

/-- A name given twice, two names with one tag, the least and the greatest tag, and a name that looks like the
end of a line. -/
theorem lua_lists_by_tag_extremes :
    let enumeration := built [("A = 1,", 3), ("B", 0), ("A", 3)]
      [("C", 9223372036854775807), ("B", -9223372036854775808)]
    let text := "\x7b\n  B = -9223372036854775808,\n  A = 3,\n  A = 1, = 3,\n  C = 9223372036854775807,\n\x7d"
    (∀ name ∈ enumeration.keys, '\n' ∉ name.toList) ∧ enumeration.lua = text ∧
      ∀ other : Enumeration, (∀ name ∈ other.keys, '\n' ∉ name.toList) → other.lua = text →
        other = enumeration := by
  intro enumeration text
  have free : ∀ name ∈ enumeration.keys, '\n' ∉ name.toList := by decide +kernel
  have written : enumeration.lua = text := by cbv
  obtain ⟨-, unique⟩ := lua_lists_by_tag free
  exact ⟨free, written, fun other free' same => unique other free' (same.trans written.symm)⟩

end ReqlLua.Lua
