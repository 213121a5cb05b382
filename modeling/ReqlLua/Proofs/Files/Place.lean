import ReqlLua.Proofs.Files.Tree

/-! The places of files in a directory. The way to a file is the way to its directory and its name. -/

namespace ReqlLua

namespace Path

/-- A name of one component. -/
def Plain (name : String) : Prop := '/' ∉ name.toList

instance : DecidablePred Plain := fun name =>
  inferInstanceAs (Decidable ('/' ∉ name.toList))

theorem Plain.append {first second : String} (one : Plain first) (other : Plain second) :
    Plain (first ++ second) := by
  unfold Plain
  rw [String.toList_append, List.mem_append, not_or]
  exact ⟨one, other⟩

theorem Plain.not_isAbsolute {name : String} (plain : Plain name) : isAbsolute name = false := by
  unfold isAbsolute
  cases shape : name.toList with
  | nil => rfl
  | cons c rest =>
    have notSlash : c ≠ '/' := fun same => plain (by rw [shape, same]; exact List.mem_cons_self)
    rw [List.head?_cons]
    simpa using notSlash

/-- What stands before the path of a file in a directory. -/
def lead (directory : String) : String :=
  if directory.isEmpty then ""
  else if directory.toList.getLast? == some '/' then directory
  else directory ++ "/"

theorem join_relative (directory : String) {path : String} (relative : isAbsolute path = false) :
    join directory path = lead directory ++ path := by
  unfold join lead
  rw [relative, Bool.false_or]
  split
  · rw [String.empty_append]
  · split <;> rfl

/-- The components before those of a file in a directory. -/
def way (directory : String) : List String := (components (lead directory)).dropLast

theorem lead_eq (directory : String) :
    lead directory = "" ∨ ∃ before, (lead directory).toList = before ++ ['/'] := by
  unfold lead
  split
  · exact .inl rfl
  · split
    · next slash =>
      right
      obtain ⟨before, same⟩ := List.getLast?_eq_some_iff.1 (eq_of_beq slash)
      exact ⟨before, same⟩
    · exact .inr ⟨directory.toList, by rw [String.toList_append]; rfl⟩

theorem Plain.components {name : String} (plain : Plain name) : components name = [name] := by
  unfold Path.components
  rw [List.splitOn_eq_singleton plain, List.map_singleton, String.ofList_toList]

/-- What stands behind a slash, or behind nothing, has components of its own. -/
theorem components_append {front : String} (ends : front = "" ∨ ∃ before, front.toList = before ++ ['/'])
    (behind : String) : components (front ++ behind) = (components front).dropLast ++ components behind := by
  rcases ends with rfl | ⟨before, slash⟩
  · rw [String.empty_append]
    rfl
  · unfold components
    rw [String.toList_append, slash, List.append_assoc, List.singleton_append,
      List.splitOn_append_cons_self, List.splitOn_append_cons_self, List.splitOn_nil]
    simp

theorem components_join (directory : String) {path : String} (relative : isAbsolute path = false) :
    components (join directory path) = way directory ++ components path := by
  rw [join_relative directory relative]
  exact components_append (lead_eq directory) path

theorem isAbsolute_append {front : String} (behind : String) (nonempty : front ≠ "") :
    isAbsolute (front ++ behind) = isAbsolute front := by
  unfold isAbsolute
  rw [String.toList_append]
  cases shape : front.toList with
  | nil => exact absurd (String.toList_eq_nil_iff.1 shape) nonempty
  | cons c rest => rfl

/-- A file in a directory is absolute with the directory. -/
theorem isAbsolute_join (directory : String) {path : String} (relative : isAbsolute path = false) :
    isAbsolute (join directory path) = isAbsolute directory := by
  unfold join
  rw [relative, Bool.false_or]
  split
  · next empty =>
    rw [String.isEmpty_iff.1 empty]
    exact relative
  · next nonempty =>
    have notEmpty : directory ≠ "" := fun empty => nonempty (String.isEmpty_iff.2 empty)
    split
    · exact isAbsolute_append path notEmpty
    · rw [String.append_assoc]
      exact isAbsolute_append _ notEmpty

theorem join_append (directory : String) {name suffix : String} (plain : Plain name)
    (plain' : Plain suffix) : join directory name ++ suffix = join directory (name ++ suffix) := by
  rw [join_relative directory plain.not_isAbsolute, String.append_assoc]
  exact (join_relative directory (plain.append plain').not_isAbsolute).symm

end Path

namespace FileTree

open ReqlLua.Path

variable {home : Location}

/-- The place to which the components of a path lead, however long the path is. -/
def follow (tree : FileTree home) (path : String) : Except FileFault Location :=
  tree.walk (start home path) (components path)

/-- The place from which the names of the files in a directory lead on. -/
def enter (tree : FileTree home) (directory : String) : Except FileFault Location :=
  tree.walk (start home directory) (way directory)

theorem start_join (home : Location) (directory : String) {path : String} (relative : isAbsolute path = false) :
    start home (join directory path) = start home directory := by
  rw [start, start, isAbsolute_join directory relative]

theorem SameDirectories.enter {tree after : FileTree home} (same : SameDirectories tree after)
    {directory : String} {above : Location} (entered : tree.enter directory = .ok above) :
    after.enter directory = .ok above := same.walk entered

theorem SameDirectories.follow {tree after : FileTree home} (same : SameDirectories tree after)
    {path : String} {place : Location} (followed : tree.follow path = .ok place) :
    after.follow path = .ok place := same.walk followed

/-- A name that leads to a place of its own. -/
structure Proper (name : String) : Prop where
  plain : Plain name
  notEmpty : name ≠ ""
  notPoint : name ≠ "."
  notPoints : name ≠ ".."

theorem Proper.of_append {name suffix : String} (plain : Plain name) (plain' : Plain suffix)
    (long : 2 < suffix.length) : Proper (name ++ suffix) := by
  have length := String.length_append (s := name) (t := suffix)
  refine ⟨plain.append plain', ?_, ?_, ?_⟩
  · intro same
    rw [same, show "".length = 0 from rfl] at length
    omega
  · intro same
    rw [same, show ".".length = 1 from rfl] at length
    omega
  · intro same
    rw [same, show "..".length = 2 from rfl] at length
    omega

theorem wayOf_ok {path : String} {found : List String} (parts : wayOf path = .ok found) :
    found = components path := by
  simp only [wayOf, guard_eq_ok] at parts
  exact (Except.ok.inj parts.2.2.2).symm

theorem follow_of_locate {tree : FileTree home} {path : String} {place : Location}
    (located : tree.locate path = .ok place) : tree.follow path = .ok place := by
  obtain ⟨found, parts, walked⟩ := locate_ok_iff.1 located
  rwa [wayOf_ok parts] at walked

/-- Whether a path is too long does not depend on the tree. -/
theorem locate_congr {tree after : FileTree home} {path : String}
    (same : after.follow path = tree.follow path) : after.locate path = tree.locate path := by
  unfold locate
  cases parts : wayOf path with
  | error fault => rfl
  | ok found =>
    rw [wayOf_ok parts]
    exact same

theorem step_proper {tree : FileTree home} {location place : Location} {name : String}
    (proper : Proper name) (leads : tree.step location name = .ok place) :
    place = location ++ [name] := by
  unfold step at leads
  split at leads
  · cases leads
  · cases leads
  · rw [if_neg (by simp [proper.notEmpty, proper.notPoint]), if_neg proper.notPoints] at leads
    split at leads
    · cases leads
    · cases leads
      rfl

/-- The way to a file in a directory goes through the directory. -/
theorem follow_join (tree : FileTree home) (directory : String) {path : String}
    (relative : isAbsolute path = false) :
    tree.follow (join directory path) =
      tree.enter directory >>= fun above => tree.walk above (components path) := by
  rw [follow, start_join home directory relative, components_join directory relative, walk_append, enter]

/-- A relative path leads from the working directory. -/
theorem follow_join_home {tree : FileTree home} {directory path : String}
    (entered : tree.enter directory = .ok home) (relative : isAbsolute path = false) :
    tree.follow (join directory path) = tree.follow path := by
  rw [follow_join tree directory relative, entered, follow, start, relative]
  rfl

-- The second step up is from the root, which is above itself.
example : (⟨.ofList [(["work"], .directory)]⟩ : FileTree ["work"]).follow "/work/../../work/lua" =
    .ok ["work", "lua"] := by rfl

/-- A name is one step behind the directory that it is in. -/
theorem follow_join_plain (tree : FileTree home) (directory : String) {name : String} (plain : Plain name) :
    tree.follow (join directory name) = tree.enter directory >>= fun above => tree.step above name := by
  rw [follow_join tree directory plain.not_isAbsolute, plain.components]
  simp only [walk_single]

/-- A file in a directory is at its name below the place of the directory. -/
theorem locate_join {tree : FileTree home} {directory name : String} (proper : Proper name)
    {place : Location} (located : tree.locate (join directory name) = .ok place) :
    ∃ above, tree.enter directory = .ok above ∧ tree.step above name = .ok place ∧
      place = above ++ [name] := by
  have followed := follow_of_locate located
  rw [follow_join_plain tree directory proper.plain] at followed
  obtain ⟨above, entered, stepped⟩ := bind_eq_ok.1 followed
  exact ⟨above, entered, stepped, step_proper proper stepped⟩

/-- Only a directory leads on. -/
theorem directory_of_step {tree : FileTree home} {location place : Location} {component : String}
    (leads : tree.step location component = .ok place) :
    tree.entry? location = some .directory := by
  unfold step at leads
  split at leads
  · cases leads
  · cases leads
  · next found => exact found

theorem components_slash {path : String} {before : List Char} (slash : path.toList = before ++ ['/']) :
    components path = (before.splitOn '/').map String.ofList ++ [""] := by
  unfold components
  rw [slash, List.splitOn_append_cons_self, List.splitOn_nil, List.map_append]
  rfl

/-- The way to the files in a directory is the way to the directory. -/
theorem follow_of_enter {tree : FileTree home} {directory : String} {above : Location}
    (entered : tree.enter directory = .ok above) (found : tree.entry? above = some .directory) :
    tree.follow directory = .ok above := by
  have stays : tree.walk above [""] = .ok above := by
    rw [walk_single, step, found]
    rfl
  unfold enter way lead at entered
  unfold follow
  split at entered
  · next empty =>
    rw [String.isEmpty_iff] at empty
    cases entered
    rw [empty] at stays ⊢
    exact stays
  · split at entered
    · next slash =>
      -- A slash at the end leaves an empty component, which leads nowhere else.
      obtain ⟨before, same⟩ := List.getLast?_eq_some_iff.1 (eq_of_beq slash)
      rw [components_slash same, List.dropLast_concat] at entered
      rw [components_slash same, walk_append, entered]
      exact stays
    · have slash : (directory ++ "/").toList = directory.toList ++ ['/'] := String.toList_append
      rw [components_slash slash, List.dropLast_concat] at entered
      exact entered

/-- The files in a directory are directly below the place of the directory. -/
theorem locate_child {tree : FileTree home} {directory name : String} (proper : Proper name)
    {place : Location} (located : tree.locate (join directory name) = .ok place) :
    ∃ above, tree.follow directory = .ok above ∧ tree.entry? above = some .directory ∧
      place = above ++ [name] := by
  obtain ⟨above, entered, stepped, child⟩ := locate_join proper located
  have found := directory_of_step stepped
  exact ⟨above, follow_of_enter entered found, found, child⟩

/-- Once its directory is there, a file is found or missed alike in trees with the same directories. -/
theorem locate_join_eq {tree after : FileTree home} (same : SameDirectories tree after)
    {directory name : String} (plain : Plain name) {above : Location}
    (entered : tree.enter directory = .ok above) (found : tree.entry? above = some .directory) :
    after.locate (join directory name) = tree.locate (join directory name) := by
  apply locate_congr
  rw [follow_join_plain tree directory plain, follow_join_plain after directory plain, entered,
    same.enter entered]
  exact step_congr (((same above).1 found).trans found.symm) name

end FileTree

end ReqlLua
