import ReqlLua.Proofs.Files.Effect

/-! A path and the same path with a suffix to its name. Both go the same way to a directory, and lead to
different places from there. -/

namespace ReqlLua

namespace Path

/-- The name at the end of a path is what follows the last slash. -/
theorem exists_name (path : String) : ∃ front name, path = front ++ name ∧ Plain name ∧
    (front = "" ∨ ∃ before, front.toList = before ++ ['/']) := by
  let named (c : Char) : Bool := c != '/'
  have split : path.toList =
      (path.toList.reverse.dropWhile named).reverse ++ (path.toList.reverse.takeWhile named).reverse := by
    rw [← List.reverse_append, List.takeWhile_append_dropWhile, List.reverse_reverse]
  refine ⟨String.ofList (path.toList.reverse.dropWhile named).reverse,
    String.ofList (path.toList.reverse.takeWhile named).reverse, ?_, ?_, ?_⟩
  · apply String.toList_inj.1
    rw [String.toList_append, String.toList_ofList, String.toList_ofList]
    exact split
  · intro slash
    rw [String.toList_ofList, List.mem_reverse] at slash
    have kept := List.all_eq_true.1 List.all_takeWhile _ slash
    exact absurd kept (by decide)
  · rw [String.toList_ofList]
    have front := List.head?_dropWhile_not named path.toList.reverse
    cases shape : path.toList.reverse.dropWhile named with
    | nil => exact .inl rfl
    | cons c others =>
      rw [shape] at front
      have slash : c = '/' := by simpa [named] using front
      exact .inr ⟨others.reverse, by rw [slash, List.reverse_cons]⟩

theorem exists_components (path : String) : ∃ way name, components path = way ++ [name] ∧ Plain name ∧
    ∀ suffix, Plain suffix → components (path ++ suffix) = way ++ [name ++ suffix] := by
  obtain ⟨front, name, rfl, plain, ends⟩ := exists_name path
  refine ⟨(components front).dropLast, name, ?_, plain, fun suffix plain' => ?_⟩
  · rw [components_append ends, plain.components]
  · rw [String.append_assoc, components_append ends, (plain.append plain').components]

end Path

namespace FileTree

open ReqlLua.Path

variable {home place sibling : Location} {tree after : FileTree home} {path suffix : String}

theorem step_place {location : Location} {component : String}
    (leads : tree.step location component = .ok place) :
    place = location ∨ place = location.dropLast ∨ place = location ++ [component] := by
  unfold step at leads
  split at leads <;> try cases leads
  split at leads
  · exact .inl (Except.ok.inj leads).symm
  · split at leads
    · exact .inr (.inl (Except.ok.inj leads).symm)
    · split at leads
      · cases leads
      · exact .inr (.inr (Except.ok.inj leads).symm)

theorem walk_concat {base : Location} {way : List String} {name : String}
    (walked : tree.walk base (way ++ [name]) = .ok place) :
    ∃ above, tree.walk base way = .ok above ∧ tree.step above name = .ok place := by
  rw [walk_append] at walked
  obtain ⟨above, leads, stepped⟩ := bind_eq_ok.1 walked
  exact ⟨above, leads, (walk_single tree above name).symm.trans stepped⟩

/-- A suffix to the name of a path is no slash before it. -/
theorem start_append (home : Location) (path : String) (plain : Plain suffix) :
    start home (path ++ suffix) = start home path := by
  by_cases empty : path = ""
  · rw [empty, String.empty_append, start, start, plain.not_isAbsolute]
    rfl
  · rw [start, start, isAbsolute_append suffix empty]

/-- The way to a sibling is the way to the directory that the path itself goes through. -/
theorem locate_sibling (plain : Plain suffix) (long : 2 < suffix.length)
    (located : tree.locate (path ++ suffix) = .ok sibling) :
    ∃ way name above, components path = way ++ [name] ∧ tree.walk (start home path) way = .ok above ∧
      tree.entry? above = some .directory ∧ sibling = above ++ [name ++ suffix] := by
  have followed := follow_of_locate located
  obtain ⟨way, name, components, plain', extended⟩ := exists_components path
  rw [follow, extended suffix plain, start_append home path plain] at followed
  obtain ⟨above, leads, stepped⟩ := walk_concat followed
  exact ⟨way, name, above, components, leads, directory_of_step stepped,
    step_proper (Proper.of_append plain' plain long) stepped⟩

/-- A path and its sibling lead to different places, in whatever trees. -/
theorem place_ne_sibling (plain : Plain suffix) (long : 2 < suffix.length) (located : tree.locate path = .ok place)
    (located' : after.locate (path ++ suffix) = .ok sibling) : place ≠ sibling := by
  obtain ⟨way, name, above, components, leads, -, rfl⟩ := locate_sibling plain long located'
  have followed := follow_of_locate located
  rw [follow, components] at followed
  obtain ⟨above', leads', stepped⟩ := walk_concat followed
  obtain rfl := walk_unique leads leads'
  intro same
  have lengths := congrArg List.length same
  rw [List.length_append, List.length_singleton] at lengths
  rcases step_place stepped with rfl | rfl | rfl
  · omega
  · rw [List.length_dropLast] at lengths
    omega
  · obtain ⟨names, -⟩ := List.cons_eq_cons.1 (List.append_cancel_left same)
    have letters := congrArg String.length names
    rw [String.length_append] at letters
    omega

/-- As long as directories stay, a path with a sibling that leads somewhere leads where it led. -/
theorem locate_beside (same : SameDirectories tree after) (plain : Plain suffix) (long : 2 < suffix.length)
    (located : tree.locate (path ++ suffix) = .ok sibling) : after.locate path = tree.locate path := by
  obtain ⟨way, name, above, components, leads, directory, -⟩ := locate_sibling plain long located
  apply locate_congr
  rw [follow, follow, components, walk_append, walk_append, leads, same.walk leads]
  simp only [walk_single]
  exact step_congr (((same above).1 directory).trans directory.symm) name

end FileTree

end ReqlLua
