import ReqlLua.Dictionary

/-! The keys of a dictionary are distinct, and an entry whose key is greater than all the others is
inserted at the end. A dictionary is determined by what is found in it. -/

namespace ReqlLua.Dictionary

variable {κ α : Type}

theorem nodup_of_keys {entries : List (κ × α)} (distinct : (entries.map (·.1)).Nodup) :
    entries.Nodup :=
  List.Pairwise.of_map (·.1) (fun _ _ differ same => differ (congrArg (·.1) same)) distinct

variable [Ord κ]

theorem nodup_of_sorted [Std.ReflOrd κ] {entries : List (κ × α)}
    (sorted : entries.Pairwise fun first second => compare first.1 second.1 = .lt) :
    (entries.map (·.1)).Nodup := by
  apply List.Pairwise.map _ _ sorted
  intro first second less same
  rw [show first.1 = second.1 from same, Std.ReflOrd.compare_self] at less
  exact Ordering.noConfusion less

theorem insertEntry_greatest [Std.TransOrd κ] {key : κ} (value : α) {entries : List (κ × α)}
    (greatest : ∀ entry ∈ entries, compare entry.1 key = .lt) :
    insertEntry key value entries = entries ++ [(key, value)] := by
  induction entries with
  | nil => rfl
  | cons first rest ih =>
    have greater : compare key first.1 = .gt :=
      Std.OrientedCmp.gt_iff_lt.2 (greatest first List.mem_cons_self)
    simp only [insertEntry, greater, List.cons_append]
    rw [ih fun entry member => greatest entry (List.mem_cons_of_mem _ member)]

/-- Entries that go on in order are added at the end. -/
theorem entries_foldl_insert [Std.TransOrd κ] [Std.LawfulEqOrd κ] (dictionary : Dictionary κ α)
    {more : List (κ × α)} (sorted : (dictionary.entries ++ more).Pairwise fun first second =>
      compare first.1 second.1 = .lt) :
    (more.foldl (fun dictionary entry => dictionary.insert entry.1 entry.2) dictionary).entries =
      dictionary.entries ++ more := by
  induction more generalizing dictionary with
  | nil => rw [List.foldl_nil, List.append_nil]
  | cons entry more ih =>
    have greatest : ∀ other ∈ dictionary.entries, compare other.1 entry.1 = .lt :=
      fun other member => (List.pairwise_append.1 sorted).2.2 other member entry List.mem_cons_self
    have inserted : (dictionary.insert entry.1 entry.2).entries = dictionary.entries ++ [entry] :=
      insertEntry_greatest entry.2 greatest
    have sorted' : ((dictionary.insert entry.1 entry.2).entries ++ more).Pairwise
        fun first second => compare first.1 second.1 = .lt := by
      rwa [inserted, List.append_assoc, List.singleton_append]
    rw [List.foldl_cons, ih _ sorted', inserted, List.append_assoc, List.singleton_append]

/-- A dictionary is rebuilt from its entries. -/
theorem ofList_entries [Std.TransOrd κ] [Std.LawfulEqOrd κ] (dictionary : Dictionary κ α) :
    ofList dictionary.entries = dictionary :=
  ext (entries_foldl_insert empty dictionary.sorted)

/-- A value that is found stands in an entry under its key. -/
theorem mem_of_get? [Std.LawfulEqOrd κ] {dictionary : Dictionary κ α} {key : κ} {value : α}
    (found : dictionary.get? key = some value) : (key, value) ∈ dictionary.entries := by
  obtain ⟨entry, first, rfl⟩ := Option.map_eq_some_iff.1 found
  have equal := List.find?_some first
  have same : key = entry.1 := Std.LawfulEqOrd.eq_of_compare (eq_of_beq equal)
  rw [same]
  exact List.mem_of_find?_eq_some first

/-! ### Equality -/

theorem find_of_mem [Std.TransOrd κ] {entries : List (κ × α)}
    (sorted : entries.Pairwise fun first second => compare first.1 second.1 = .lt) {entry : κ × α}
    (member : entry ∈ entries) :
    (entries.find? fun other => compare entry.1 other.1 == .eq) = some entry := by
  induction entries with
  | nil => exact absurd member List.not_mem_nil
  | cons first rest ih =>
    obtain ⟨below, sorted⟩ := List.pairwise_cons.1 sorted
    rcases List.mem_cons.1 member with rfl | member
    · exact List.find?_cons_of_pos (by simp)
    · have greater : compare entry.1 first.1 = .gt := Std.OrientedCmp.gt_iff_lt.2 (below entry member)
      rw [List.find?_cons_of_neg (by simp [greater]), ih sorted member]

theorem mem_entries_iff [Std.TransOrd κ] [Std.LawfulEqOrd κ] {dictionary : Dictionary κ α} {key : κ}
    {value : α} : (key, value) ∈ dictionary.entries ↔ dictionary.get? key = some value := by
  constructor
  · intro member
    exact congrArg (Option.map (·.2)) (find_of_mem dictionary.sorted member)
  · exact mem_of_get?

theorem mem_keys_iff [Std.TransOrd κ] [Std.LawfulEqOrd κ] {dictionary : Dictionary κ α} {key : κ} :
    key ∈ dictionary.keys ↔ dictionary.contains key = true := by
  constructor
  · intro member
    obtain ⟨entry, listed, rfl⟩ := List.mem_map.1 member
    exact Option.isSome_iff_exists.2 ⟨entry.2, mem_entries_iff.1 listed⟩
  · intro held
    obtain ⟨value, found⟩ := Option.isSome_iff_exists.1 held
    exact List.mem_map.2 ⟨(key, value), mem_of_get? found, rfl⟩

/-- Dictionaries in which the same is found under every key are equal. -/
theorem eq_of_get? [Std.TransOrd κ] [Std.LawfulEqOrd κ] {first second : Dictionary κ α}
    (same : ∀ key, first.get? key = second.get? key) : first = second := by
  have distinct (dictionary : Dictionary κ α) : dictionary.entries.Nodup :=
    nodup_of_keys (nodup_of_sorted dictionary.sorted)
  have entries : ∀ entry, entry ∈ first.entries ↔ entry ∈ second.entries := by
    rintro ⟨key, value⟩
    rw [mem_entries_iff, mem_entries_iff, same]
  have permuted := (List.perm_ext_iff_of_nodup (distinct first) (distinct second)).2 entries
  apply ext
  refine permuted.eq_of_pairwise ?_ first.sorted second.sorted
  intro one other _ _ less greater
  rw [Std.OrientedCmp.gt_iff_lt.2 less] at greater
  cases greater

section Updates

variable [Std.TransOrd κ] [Std.LawfulEqOrd κ] [DecidableEq κ] (dictionary : Dictionary κ α)

theorem insert_insert (key : κ) (old value : α) :
    (dictionary.insert key old).insert key value = dictionary.insert key value := by
  apply eq_of_get?
  intro other
  rw [get?_insert, get?_insert, get?_insert]
  split <;> rfl

theorem erase_insert (key : κ) (value : α) :
    (dictionary.insert key value).erase key = dictionary.erase key := by
  apply eq_of_get?
  intro other
  rw [get?_erase, get?_erase, get?_insert]
  split <;> rfl

variable {dictionary}

theorem insert_of_get? {key : κ} {value : α} (found : dictionary.get? key = some value) :
    dictionary.insert key value = dictionary := by
  apply eq_of_get?
  intro other
  rw [get?_insert]
  split
  · next here => rw [here, found]
  · rfl

theorem erase_of_get? {key : κ} (missing : dictionary.get? key = none) :
    dictionary.erase key = dictionary := by
  apply eq_of_get?
  intro other
  rw [get?_erase]
  split
  · next here => rw [here, missing]
  · rfl

end Updates

/-! ### Dictionaries of lists -/

section Lists

variable [Std.TransOrd κ] [Std.LawfulEqOrd κ] [DecidableEq κ] {entries others : List (κ × α)}

theorem get?_foldl_insert {key : κ} (distant : key ∉ entries.map (·.1))
    (dictionary : Dictionary κ α) :
    (entries.foldl (fun dictionary entry => dictionary.insert entry.1 entry.2) dictionary).get? key =
      dictionary.get? key := by
  induction entries generalizing dictionary with
  | nil => rfl
  | cons entry entries ih =>
    rw [List.map_cons, List.mem_cons, not_or] at distant
    rw [List.foldl_cons, ih distant.2, get?_insert, if_neg distant.1]

theorem get?_foldl_insert_of_mem (distinct : (entries.map (·.1)).Nodup) {key : κ} {value : α}
    (member : (key, value) ∈ entries) (dictionary : Dictionary κ α) :
    (entries.foldl (fun dictionary entry => dictionary.insert entry.1 entry.2) dictionary).get? key =
      some value := by
  induction entries generalizing dictionary with
  | nil => exact absurd member List.not_mem_nil
  | cons entry entries ih =>
    obtain ⟨distant, distinct⟩ := List.nodup_cons.1 distinct
    rw [List.foldl_cons]
    rcases List.mem_cons.1 member with rfl | member
    · rw [get?_foldl_insert distant, get?_insert, if_pos rfl]
    · exact ih distinct member _

/-- In a dictionary made of entries with distinct keys exactly these entries are found. -/
theorem get?_ofList (distinct : (entries.map (·.1)).Nodup) {key : κ} {value : α} :
    (ofList entries).get? key = some value ↔ (key, value) ∈ entries := by
  constructor
  · intro found
    have listed : key ∈ entries.map (·.1) := by
      apply Classical.byContradiction
      intro distant
      rw [ofList, get?_foldl_insert distant] at found
      cases found
    obtain ⟨entry, member, rfl⟩ := List.mem_map.1 listed
    rw [ofList, get?_foldl_insert_of_mem distinct member] at found
    cases found
    exact member
  · exact fun member => get?_foldl_insert_of_mem distinct member empty

/-- A dictionary made of entries with distinct keys holds these entries and no others. -/
theorem perm_ofList (distinct : (entries.map (·.1)).Nodup) :
    (ofList entries).entries.Perm entries := by
  have kept := nodup_of_keys (nodup_of_sorted (ofList entries).sorted)
  apply (List.perm_ext_iff_of_nodup kept (nodup_of_keys distinct)).2
  intro entry
  rw [mem_entries_iff, get?_ofList distinct]

theorem size_ofList (distinct : (entries.map (·.1)).Nodup) :
    (ofList entries).size = entries.length :=
  (perm_ofList distinct).length_eq

/-- The order of entries with distinct keys makes no difference. -/
theorem ofList_perm (distinct : (entries.map (·.1)).Nodup) (same : entries.Perm others) :
    ofList entries = ofList others := by
  apply eq_of_get?
  intro key
  apply Option.ext
  intro value
  rw [get?_ofList distinct, get?_ofList ((same.map _).nodup_iff.1 distinct), same.mem_iff]

end Lists

end ReqlLua.Dictionary
