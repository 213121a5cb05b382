import ReqlLua.Proofs.Files.Place

/-! When the operations on a file tree succeed, and the whole tree that they leave. Where a path leads
is the same in every tree in which it leads anywhere. -/

namespace ReqlLua.FileTree

open ReqlLua.Path

variable {home : Location}

/-! ### Places -/

theorem step_unique {first second : FileTree home} {location place other : Location} {component : String}
    (one : first.step location component = .ok place)
    (two : second.step location component = .ok other) : place = other := by
  unfold step at one two
  split at one <;> try cases one
  split at two <;> try cases two
  rw [one] at two
  exact Except.ok.inj two

theorem walk_unique {first second : FileTree home} {way : List String} {location place other : Location}
    (one : first.walk location way = .ok place) (two : second.walk location way = .ok other) :
    place = other := by
  induction way generalizing location with
  | nil =>
    cases one
    cases two
    rfl
  | cons component rest ih =>
    rw [walk_cons] at one two
    obtain ⟨next, onward, later⟩ := bind_eq_ok.1 one
    obtain ⟨next', onward', later'⟩ := bind_eq_ok.1 two
    rw [← step_unique onward onward'] at later'
    exact ih later later'

/-- A path leads to the same place in all trees. -/
theorem locate_unique {first second : FileTree home} {path : String} {place other : Location}
    (one : first.locate path = .ok place) (two : second.locate path = .ok other) : place = other := by
  obtain ⟨way, parts, walked⟩ := locate_ok_iff.1 one
  obtain ⟨way', parts', walked'⟩ := locate_ok_iff.1 two
  rw [parts] at parts'
  cases parts'
  exact walk_unique walked walked'

/-- A file may take a name in a directory wherever no directory bears the name. -/
theorem locateTarget_join {tree : FileTree home} {directory name : String} (proper : Proper name)
    {place : Location} :
    tree.locateTarget (join directory name) = .ok place ↔
      tree.locate (join directory name) = .ok place ∧ tree.entry? place ≠ some .directory := by
  refine ⟨locate_of_locateTarget, ?_⟩
  rintro ⟨located, free⟩
  obtain ⟨found, parts, -⟩ := locate_ok_iff.1 located
  obtain ⟨above, entered, stepped, -⟩ := locate_join proper located
  have relative := proper.plain.not_isAbsolute
  rw [wayOf_ok parts, components_join directory relative, proper.plain.components] at parts
  rw [enter, ← start_join home directory relative] at entered
  exact locateTarget_ok_iff.2 ⟨way directory, name, above, parts,
    ⟨proper.notEmpty, proper.notPoint, proper.notPoints⟩, entered, stepped, free⟩

/-- A file may take a name in all trees with the same directories or in none. -/
theorem SameDirectories.locateTarget {tree after : FileTree home} {path : String} {place : Location}
    (same : SameDirectories tree after) (target : tree.locateTarget path = .ok place) :
    after.locateTarget path = .ok place := by
  obtain ⟨before, name, directory, parts, proper, walked, stepped, free⟩ := locateTarget_ok_iff.1 target
  exact locateTarget_ok_iff.2 ⟨before, name, directory, parts, proper, same.walk walked, same.step stepped,
    fun found => free ((same place).2 found)⟩

/-! ### Operations -/

theorem truncate_ok_iff {tree after : FileTree home} {path : String} :
    tree.truncate path = .ok after ↔ ∃ place, tree.locate path = .ok place ∧
      tree.entry? place ≠ some .directory ∧ after = tree.insert place (.file .empty) := by
  refine bind_eq_ok.trans (exists_congr fun place => and_congr_right fun _ => ?_)
  constructor
  · intro truncated
    split at truncated
    · cases truncated
    · next free =>
      cases truncated
      exact ⟨free, rfl⟩
  · rintro ⟨free, rfl⟩
    split
    · next found => exact absurd found free
    · rfl

theorem append_ok_iff {tree after : FileTree home} {path : String} {bytes : ByteArray} :
    tree.append path bytes = .ok after ↔ ∃ place contents, tree.locate path = .ok place ∧
      tree.entry? place = some (.file contents) ∧
      after = tree.insert place (.file (contents ++ bytes)) := by
  refine bind_eq_ok.trans (exists_congr fun place => ?_)
  constructor
  · rintro ⟨located, appended⟩
    split at appended
    · cases appended
    · cases appended
    · next contents found =>
      cases appended
      exact ⟨contents, located, found, rfl⟩
  · rintro ⟨contents, located, found, rfl⟩
    refine ⟨located, ?_⟩
    rw [found]

theorem write_ok_iff {tree after : FileTree home} {path : String} {contents : ByteArray} :
    tree.write path contents = .ok after ↔ ∃ place, tree.locate path = .ok place ∧
      tree.entry? place ≠ some .directory ∧ after = tree.insert place (.file contents) := by
  -- Once the file is emptied, nothing stands in the way of adding to it.
  have filled {place : Location} (located : tree.locate path = .ok place)
      (free : tree.entry? place ≠ some .directory) :
      (tree.insert place (.file .empty)).append path contents =
        .ok (tree.insert place (.file contents)) := by
    refine append_ok_iff.2 ⟨place, .empty, (sameDirectories_insert free _).locate located, ?_, ?_⟩
    · rw [entry?_insert (ne_nil_of_free free), if_pos rfl]
    · rw [insert_insert, ByteArray.empty_append]
  refine bind_eq_ok.trans ⟨?_, ?_⟩
  · rintro ⟨between, emptied, written⟩
    obtain ⟨place, located, free, rfl⟩ := truncate_ok_iff.1 emptied
    exact ⟨place, located, free, Except.ok.inj (written.symm.trans (filled located free))⟩
  · rintro ⟨place, located, free, rfl⟩
    exact ⟨_, truncate_ok_iff.2 ⟨place, located, free, rfl⟩, filled located free⟩

theorem rename_ok_iff {tree after : FileTree home} {source target : String} :
    tree.rename source target = .ok after ↔ ∃ origin destination contents,
      tree.locate source = .ok origin ∧ tree.locateTarget target = .ok destination ∧
      tree.entry? origin = some (.file contents) ∧
      after = (tree.erase origin).insert destination (.file contents) := by
  simp only [rename, bind_eq_ok]
  constructor
  · rintro ⟨origin, located, destination, aimed, renamed⟩
    split at renamed
    · next contents found =>
      cases renamed
      exact ⟨origin, destination, contents, located, aimed, found, rfl⟩
    · cases renamed
    · cases renamed
  · rintro ⟨origin, destination, contents, located, aimed, found, rfl⟩
    refine ⟨origin, located, destination, aimed, ?_⟩
    rw [found]

/-- A file that is written under one name and moves to another. -/
theorem write_rename_ok_iff {tree after : FileTree home} {temporary path : String} {contents : ByteArray} :
    (∃ between, tree.write temporary contents = .ok between ∧
      between.rename temporary path = .ok after) ↔
    ∃ hidden place, tree.locate temporary = .ok hidden ∧ tree.entry? hidden ≠ some .directory ∧
      tree.locateTarget path = .ok place ∧
      after = (tree.erase hidden).insert place (.file contents) := by
  constructor
  · rintro ⟨between, written, renamed⟩
    obtain ⟨hidden, hiddenAt, free, rfl⟩ := write_ok_iff.1 written
    obtain ⟨origin, place, moved, originAt, target, found, rfl⟩ := rename_ok_iff.1 renamed
    -- What is moved is what was written.
    cases locate_unique originAt hiddenAt
    rw [entry?_insert (ne_nil_of_free free), if_pos rfl] at found
    cases found
    rw [erase_insert]
    exact ⟨hidden, place, hiddenAt, free, (sameDirectories_insert free contents).symm.locateTarget target, rfl⟩
  · rintro ⟨hidden, place, hiddenAt, free, target, rfl⟩
    have same := sameDirectories_insert free contents
    refine ⟨tree.insert hidden (.file contents), write_ok_iff.2 ⟨hidden, hiddenAt, free, rfl⟩, ?_⟩
    refine rename_ok_iff.2 ⟨hidden, place, contents, same.locate hiddenAt, same.locateTarget target, ?_, ?_⟩
    · rw [entry?_insert (ne_nil_of_free free), if_pos rfl]
    · rw [erase_insert]

theorem remove_ok_iff {tree after : FileTree home} {path : String} :
    tree.remove path = .ok after ↔ ∃ place contents, tree.locate path = .ok place ∧
      tree.entry? place = some (.file contents) ∧ after = tree.erase place := by
  refine bind_eq_ok.trans (exists_congr fun place => ?_)
  constructor
  · rintro ⟨located, removed⟩
    split at removed
    · cases removed
    · cases removed
    · next contents found =>
      cases removed
      exact ⟨contents, located, found, rfl⟩
  · rintro ⟨contents, located, found, rfl⟩
    refine ⟨located, ?_⟩
    rw [found]

/-! ### Directories -/

/-- A file that is taken away from one place and put at another leaves all directories. -/
theorem sameDirectories_move {tree : FileTree home} {origin destination : Location}
    (free : tree.entry? origin ≠ some .directory)
    (free' : tree.entry? destination ≠ some .directory) (contents : ByteArray) :
    SameDirectories tree ((tree.erase origin).insert destination (.file contents)) := by
  have erased := sameDirectories_erase free
  exact erased.trans (sameDirectories_insert (fun found => free' ((erased destination).2 found)) _)

theorem entry?_move {tree : FileTree home} {origin destination : Location}
    (free : tree.entry? origin ≠ some .directory)
    (free' : tree.entry? destination ≠ some .directory) (contents : ByteArray)
    (location : Location) :
    entry? ((tree.erase origin).insert destination (.file contents)) location =
      if location = destination then some (.file contents)
      else if location = origin then none else tree.entry? location := by
  rw [entry?_insert (ne_nil_of_free free'), entry?_erase (ne_nil_of_free free)]

theorem eq_of_move_differs {tree : FileTree home} {origin destination location : Location}
    {contents : ByteArray} (free : tree.entry? origin ≠ some .directory)
    (free' : tree.entry? destination ≠ some .directory)
    (differs : entry? ((tree.erase origin).insert destination (.file contents)) location ≠
      tree.entry? location) : location = destination ∨ location = origin := by
  by_cases moved : location = destination
  · exact .inl moved
  · rw [entry?_insert (ne_nil_of_free free'), if_neg moved] at differs
    exact .inr (eq_of_erase_differs (ne_nil_of_free free) differs)

end ReqlLua.FileTree
