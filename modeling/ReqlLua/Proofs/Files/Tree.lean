import ReqlLua.Files.Tree
import ReqlLua.Proofs.Dictionary

/-! What the operations on a file tree leave at each place. They put files where no directory is and
take files away, so every path that leads to a place keeps leading there. -/

namespace ReqlLua

section Results

variable {ε α β : Type} {result : β}

theorem bind_eq_ok {first : Except ε α} {follow : α → Except ε β} :
    first >>= follow = .ok result ↔ ∃ value, first = .ok value ∧ follow value = .ok result := by
  cases first <;> simp [bind, Except.bind]

theorem guard_eq_ok {condition : Prop} [Decidable condition] {fault : ε} {rest : Except ε β} :
    (if condition then .error fault else rest) = .ok result ↔ ¬ condition ∧ rest = .ok result := by
  split <;> simp [*]

end Results

namespace FileTree

variable {home : Location}

/-! ### Entries -/

theorem insert_insert (tree : FileTree home) (place : Location) (first second : Entry) :
    (tree.insert place first).insert place second = tree.insert place second :=
  congrArg FileTree.mk (tree.entries.insert_insert place first second)

theorem erase_insert (tree : FileTree home) (place : Location) (entry : Entry) :
    (tree.insert place entry).erase place = tree.erase place :=
  congrArg FileTree.mk (tree.entries.erase_insert place entry)

/-- Below the root an entry is what the tree holds. -/
theorem entry?_below (tree : FileTree home) {place : Location} (below : place ≠ []) :
    tree.entry? place = tree.entries.get? place := if_neg below

theorem insert_of_held {tree : FileTree home} {place : Location} {entry : Entry} (below : place ≠ [])
    (held : tree.entry? place = some entry) : tree.insert place entry = tree := by
  rw [entry?_below tree below] at held
  exact congrArg FileTree.mk (Dictionary.insert_of_get? held)

theorem erase_of_missing {tree : FileTree home} {place : Location} (below : place ≠ [])
    (missing : tree.entry? place = none) : tree.erase place = tree := by
  rw [entry?_below tree below] at missing
  exact congrArg FileTree.mk (Dictionary.erase_of_get? missing)

theorem ne_nil_of_free {tree : FileTree home} {place : Location}
    (free : tree.entry? place ≠ some .directory) : place ≠ [] := by
  rintro rfl
  exact free rfl

theorem free_of_file {tree : FileTree home} {place : Location} {contents : ByteArray}
    (found : tree.entry? place = some (.file contents)) : tree.entry? place ≠ some .directory := by
  rw [found]
  exact nofun

theorem entry?_insert {tree : FileTree home} {place : Location} (below : place ≠ []) (entry : Entry)
    (location : Location) :
    entry? (tree.insert place entry) location =
      if location = place then some entry else tree.entry? location := by
  unfold entry?
  by_cases root : location = []
  · rw [if_pos root, if_pos root, if_neg fun same : location = place => below (same ▸ root)]
  · rw [if_neg root, if_neg root]
    exact Dictionary.get?_insert tree.entries place location entry

theorem entry?_erase {tree : FileTree home} {place : Location} (below : place ≠ [])
    (location : Location) :
    entry? (tree.erase place) location =
      if location = place then none else tree.entry? location := by
  unfold entry?
  by_cases root : location = []
  · rw [if_pos root, if_pos root, if_neg fun same : location = place => below (same ▸ root)]
  · rw [if_neg root, if_neg root]
    exact Dictionary.get?_erase tree.entries place location

/-- Only the place of an operation changes. -/
theorem eq_of_insert_differs {tree : FileTree home} {place location : Location} {entry : Entry}
    (below : place ≠ [])
    (differs : entry? (tree.insert place entry) location ≠ tree.entry? location) :
    location = place := by
  rw [entry?_insert below] at differs
  exact Decidable.byContradiction fun away => differs (if_neg away)

theorem eq_of_erase_differs {tree : FileTree home} {place location : Location} (below : place ≠ [])
    (differs : entry? (tree.erase place) location ≠ tree.entry? location) : location = place := by
  rw [entry?_erase below] at differs
  exact Decidable.byContradiction fun away => differs (if_neg away)

/-! ### Paths -/

theorem step_congr {tree after : FileTree home} {location : Location}
    (same : after.entry? location = tree.entry? location) (component : String) :
    after.step location component = tree.step location component := by
  unfold step
  rw [same]

theorem walk_cons (tree : FileTree home) (location : Location) (component : String) (rest : List String) :
    tree.walk location (component :: rest) =
      tree.step location component >>= fun next => tree.walk next rest := by
  rw [walk]
  cases tree.step location component <;> rfl

theorem walk_append (tree : FileTree home) (location : Location) (way more : List String) :
    tree.walk location (way ++ more) = tree.walk location way >>= fun next => tree.walk next more := by
  induction way generalizing location with
  | nil => rfl
  | cons component rest ih => simp only [List.cons_append, walk_cons, bind_assoc, ih]

theorem walk_single (tree : FileTree home) (location : Location) (component : String) :
    tree.walk location [component] = tree.step location component :=
  (walk_cons tree location component []).trans (bind_pure _)

theorem locate_ok_iff {tree : FileTree home} {path : String} {place : Location} :
    tree.locate path = .ok place ↔
      ∃ way, wayOf path = .ok way ∧ tree.walk (start home path) way = .ok place :=
  bind_eq_ok

/-- The same places hold directories. -/
def SameDirectories (first second : FileTree home) : Prop :=
  ∀ location, first.entry? location = some .directory ↔ second.entry? location = some .directory

namespace SameDirectories

variable {first second third : FileTree home}

theorem refl (tree : FileTree home) : SameDirectories tree tree := fun _ => Iff.rfl

theorem symm (same : SameDirectories first second) : SameDirectories second first :=
  fun location => (same location).symm

theorem trans (one : SameDirectories first second) (other : SameDirectories second third) :
    SameDirectories first third :=
  fun location => (one location).trans (other location)

theorem step (same : SameDirectories first second) {location next : Location} {component : String}
    (leads : first.step location component = .ok next) :
    second.step location component = .ok next := by
  unfold FileTree.step at leads ⊢
  cases entry : first.entry? location with
  | none => simp [entry] at leads
  | some found =>
    cases found with
    | file contents => simp [entry] at leads
    | directory =>
      rw [entry] at leads
      rw [(same location).1 entry]
      exact leads

theorem walk (same : SameDirectories first second) {way : List String} {location place : Location}
    (leads : first.walk location way = .ok place) : second.walk location way = .ok place := by
  induction way generalizing location with
  | nil => exact leads
  | cons component rest ih =>
    rw [walk_cons] at leads ⊢
    obtain ⟨next, onward, later⟩ := bind_eq_ok.1 leads
    rw [same.step onward]
    exact ih later

theorem locate (same : SameDirectories first second) {path : String} {place : Location}
    (leads : first.locate path = .ok place) : second.locate path = .ok place := by
  obtain ⟨way, parts, walked⟩ := locate_ok_iff.1 leads
  exact locate_ok_iff.2 ⟨way, parts, same.walk walked⟩

end SameDirectories

/-- Behind a name there is no slash to take away. -/
theorem names_concat (before : List String) {name : String} (notEmpty : name ≠ "") :
    ((before ++ [name]).reverse.dropWhile (· == "")).reverse = before ++ [name] := by
  rw [List.reverse_append, List.reverse_singleton, List.singleton_append,
    List.dropWhile_cons_of_neg (by simpa using notEmpty), List.reverse_cons, List.reverse_reverse]

/-- A file may take a name of its own at the end of the way, where no directory is. -/
theorem locateTarget_ok_iff {tree : FileTree home} {path : String} {place : Location} :
    tree.locateTarget path = .ok place ↔
      ∃ before name directory, wayOf path = .ok (before ++ [name]) ∧
        (name ≠ "" ∧ name ≠ "." ∧ name ≠ "..") ∧
        tree.walk (start home path) before = .ok directory ∧ tree.step directory name = .ok place ∧
        tree.entry? place ≠ some .directory := by
  unfold locateTarget
  simp only [bind_eq_ok, guard_eq_ok, Bool.or_eq_true, decide_eq_true_eq, not_or]
  constructor
  · rintro ⟨way, parts, directory, walked, location, stepped, ⟨⟨someName, notPoint⟩, notPoints⟩, named, target⟩
    rcases List.eq_nil_or_concat way with rfl | ⟨before, name, rfl⟩
    · exact absurd rfl someName
    · rw [List.concat_eq_append] at parts walked stepped notPoint notPoints named
      have notEmpty : name ≠ "" := by simpa using named
      rw [names_concat before notEmpty] at walked stepped notPoint notPoints
      rw [List.dropLast_concat] at walked
      rw [List.getLastD_concat] at stepped notPoint notPoints
      rw [if_neg notPoints] at stepped
      split at target
      · cases target
      · next free =>
        cases target
        exact ⟨before, name, directory, parts, ⟨notEmpty, notPoint, notPoints⟩, walked, stepped, free⟩
  · rintro ⟨before, name, directory, parts, ⟨notEmpty, notPoint, notPoints⟩, walked, stepped, free⟩
    refine ⟨before ++ [name], parts, directory, ?_, place, ?_⟩
    · rwa [names_concat before notEmpty, List.dropLast_concat]
    · rw [names_concat before notEmpty, List.getLastD_concat, if_neg notPoints]
      refine ⟨stepped, ⟨⟨notEmpty, notPoint⟩, notPoints⟩, by simpa using notEmpty, ?_⟩
      split
      · next found => exact absurd found free
      · rfl

/-- Where a file may take a name, the name leads. -/
theorem locate_of_locateTarget {tree : FileTree home} {path : String} {place : Location}
    (target : tree.locateTarget path = .ok place) :
    tree.locate path = .ok place ∧ tree.entry? place ≠ some .directory := by
  obtain ⟨before, name, directory, parts, -, walked, stepped, free⟩ := locateTarget_ok_iff.1 target
  refine ⟨locate_ok_iff.2 ⟨_, parts, ?_⟩, free⟩
  rw [walk_append, walked]
  exact (walk_single tree directory name).trans stepped

/-! ### Operations -/

theorem read_ok_iff {tree : FileTree home} {path : String} {contents : ByteArray} :
    tree.read path = .ok contents ↔
      ∃ place, tree.locate path = .ok place ∧ tree.entry? place = some (.file contents) := by
  refine bind_eq_ok.trans (exists_congr fun place => and_congr_right fun _ => ?_)
  cases tree.entry? place with
  | none => simp
  | some entry => cases entry <;> simp

theorem read_ok_iff_of_locate {tree : FileTree home} {path : String} {place : Location}
    (located : tree.locate path = .ok place) {contents : ByteArray} :
    tree.read path = .ok contents ↔ tree.entry? place = some (.file contents) := by
  rw [read_ok_iff, located]
  simp

/-- The files that are there are those that can be read. -/
theorem isFile_of_read {tree : FileTree home} {path : String} {contents : ByteArray}
    (held : tree.read path = .ok contents) : tree.isFile path = true := by
  obtain ⟨place, located, found⟩ := read_ok_iff.1 held
  rw [isFile, located]
  simp only [found]

theorem read_of_isFile {tree : FileTree home} {path : String} (there : tree.isFile path = true) :
    ∃ contents, tree.read path = .ok contents := by
  cases located : tree.locate path with
  | error fault => simp [isFile, located] at there
  | ok place =>
    rw [isFile, located] at there
    cases found : tree.entry? place with
    | none => simp [found] at there
    | some entry =>
      cases entry with
      | directory => simp [found] at there
      | file contents => exact ⟨contents, read_ok_iff.2 ⟨place, located, found⟩⟩

/-- A path gives the same file, or no file, in both trees when its place does. -/
theorem read_eq_iff {tree after : FileTree home} (same : SameDirectories tree after) {path : String}
    {place : Location} (located : tree.locate path = .ok place)
    (free : tree.entry? place ≠ some .directory) :
    after.read path = tree.read path ↔ after.entry? place = tree.entry? place := by
  have free' : after.entry? place ≠ some .directory :=
    fun directory => free ((same place).2 directory)
  unfold read
  rw [located, same.locate located]
  simp only [bind, Except.bind]
  revert free free'
  rcases tree.entry? place with - | (- | contents) <;>
    rcases after.entry? place with - | (- | contents') <;> simp

/-- What is read depends on where the path leads and on what is there. -/
theorem read_congr {tree after : FileTree home} {path : String}
    (located : after.locate path = tree.locate path)
    (held : ∀ place, tree.locate path = .ok place → after.entry? place = tree.entry? place) :
    after.read path = tree.read path := by
  unfold read
  rw [located]
  cases found : tree.locate path with
  | error fault => rfl
  | ok place =>
    simp only [bind, Except.bind]
    rw [held place found]

theorem walk_of_entries {tree after : FileTree home}
    (same : ∀ place, after.entry? place = tree.entry? place) (location : Location)
    (way : List String) : after.walk location way = tree.walk location way := by
  induction way generalizing location with
  | nil => rfl
  | cons component rest ih =>
    rw [walk_cons, walk_cons, step_congr (same location)]
    exact congrArg _ (funext ih)

theorem read_of_entries {tree after : FileTree home}
    (same : ∀ place, after.entry? place = tree.entry? place) (path : String) :
    after.read path = tree.read path := by
  refine read_congr ?_ fun place _ => same place
  unfold locate
  cases wayOf path with
  | error fault => rfl
  | ok way => exact walk_of_entries same (start home path) way

/-- Only places without a directory change, and none of them receives one. -/
theorem sameDirectories_of_entries {tree after : FileTree home}
    (changed : ∀ location, after.entry? location ≠ tree.entry? location →
      tree.entry? location ≠ some .directory ∧ after.entry? location ≠ some .directory) :
    SameDirectories tree after := by
  intro location
  by_cases same : after.entry? location = tree.entry? location
  · rw [same]
  · obtain ⟨before, behind⟩ := changed location same
    exact ⟨fun directory => absurd directory before, fun directory => absurd directory behind⟩

theorem sameDirectories_insert {tree : FileTree home} {place : Location}
    (free : tree.entry? place ≠ some .directory) (contents : ByteArray) :
    SameDirectories tree (tree.insert place (.file contents)) := by
  have below := ne_nil_of_free free
  apply sameDirectories_of_entries
  intro location differs
  rw [eq_of_insert_differs below differs, entry?_insert below, if_pos rfl]
  exact ⟨free, nofun⟩

theorem sameDirectories_erase {tree : FileTree home} {place : Location}
    (free : tree.entry? place ≠ some .directory) : SameDirectories tree (tree.erase place) := by
  have below := ne_nil_of_free free
  apply sameDirectories_of_entries
  intro location differs
  rw [eq_of_erase_differs below differs, entry?_erase below, if_pos rfl]
  exact ⟨free, nofun⟩

end FileTree

end ReqlLua
