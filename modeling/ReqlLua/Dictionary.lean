/-! Finite dictionaries, kept as the list of their entries in increasing order of key. The order
is part of the type, so two dictionaries with the same entries are equal however they were built. -/

namespace ReqlLua

structure Dictionary (κ α : Type) [Ord κ] where
  entries : List (κ × α)
  sorted : entries.Pairwise fun first second => compare first.1 second.1 = .lt

namespace Dictionary

variable {κ α : Type} [Ord κ]

/-- The value already held under `key`, if any, gives way. -/
def insertEntry (key : κ) (value : α) : List (κ × α) → List (κ × α)
  | [] => [(key, value)]
  | entry :: rest =>
    match compare key entry.1 with
    | .lt => (key, value) :: entry :: rest
    | .eq => (key, value) :: rest
    | .gt => entry :: insertEntry key value rest

theorem mem_insertEntry {key : κ} {value : α} {entry : κ × α} {entries : List (κ × α)}
    (member : entry ∈ insertEntry key value entries) :
    entry = (key, value) ∨ entry ∈ entries := by
  induction entries with
  | nil => simpa [insertEntry] using member
  | cons first rest ih =>
    simp only [insertEntry] at member
    split at member <;> simp only [List.mem_cons] at member ⊢
    · exact member
    · exact member.imp_right .inr
    · rcases member with same | member
      · exact .inr (.inl same)
      · exact (ih member).imp_right .inr

theorem sorted_insertEntry [Std.TransOrd κ] [Std.LawfulEqOrd κ] (key : κ) (value : α)
    {entries : List (κ × α)}
    (sorted : entries.Pairwise fun first second => compare first.1 second.1 = .lt) :
    (insertEntry key value entries).Pairwise fun first second =>
      compare first.1 second.1 = .lt := by
  induction entries with
  | nil => simp [insertEntry]
  | cons first rest ih =>
    obtain ⟨below, sorted⟩ := List.pairwise_cons.1 sorted
    simp only [insertEntry]
    split
    · next less =>
      refine List.pairwise_cons.2 ⟨fun entry member => ?_, List.pairwise_cons.2 ⟨below, sorted⟩⟩
      rcases List.mem_cons.1 member with same | member
      · exact same ▸ less
      · exact Std.TransCmp.lt_trans less (below entry member)
    · next same =>
      have keys := Std.LawfulEqOrd.eq_of_compare same
      exact List.pairwise_cons.2 ⟨fun entry member => keys ▸ below entry member, sorted⟩
    · next greater =>
      refine List.pairwise_cons.2 ⟨fun entry member => ?_, ih sorted⟩
      rcases mem_insertEntry member with same | member
      · exact same ▸ Std.OrientedCmp.gt_iff_lt.1 greater
      · exact below entry member

def empty : Dictionary κ α := ⟨[], .nil⟩

instance : Inhabited (Dictionary κ α) := ⟨empty⟩

instance [DecidableEq κ] [DecidableEq α] : DecidableEq (Dictionary κ α) := fun first second =>
  decidable_of_iff (first.entries = second.entries)
    ⟨fun same => by cases first; cases second; cases same; rfl, fun same => same ▸ rfl⟩

def insert [Std.TransOrd κ] [Std.LawfulEqOrd κ] (dictionary : Dictionary κ α) (key : κ)
    (value : α) : Dictionary κ α :=
  ⟨insertEntry key value dictionary.entries, sorted_insertEntry key value dictionary.sorted⟩

def erase (dictionary : Dictionary κ α) (key : κ) : Dictionary κ α :=
  ⟨dictionary.entries.filter fun entry => compare key entry.1 != .eq,
    dictionary.sorted.filter _⟩

/-- Of two entries with one key the later counts. -/
def ofList [Std.TransOrd κ] [Std.LawfulEqOrd κ] (entries : List (κ × α)) : Dictionary κ α :=
  entries.foldl (fun dictionary entry => dictionary.insert entry.1 entry.2) empty

def get? (dictionary : Dictionary κ α) (key : κ) : Option α :=
  (dictionary.entries.find? fun entry => compare key entry.1 == .eq).map (·.2)

def contains (dictionary : Dictionary κ α) (key : κ) : Bool := (dictionary.get? key).isSome

def keys (dictionary : Dictionary κ α) : List κ := dictionary.entries.map (·.1)

def size (dictionary : Dictionary κ α) : Nat := dictionary.entries.length

theorem ext {first second : Dictionary κ α} (same : first.entries = second.entries) :
    first = second := by
  cases first; cases second; cases same; rfl

@[simp] theorem get?_empty (key : κ) : (empty : Dictionary κ α).get? key = none := rfl

theorem find_insertEntry [Std.TransOrd κ] [Std.LawfulEqOrd κ] [DecidableEq κ] (key other : κ)
    (value : α) (entries : List (κ × α)) :
    ((insertEntry key value entries).find? fun entry => compare other entry.1 == .eq) =
      if other = key then some (key, value)
      else entries.find? fun entry => compare other entry.1 == .eq := by
  by_cases same : other = key
  · subst same
    induction entries with
    | nil => simp [insertEntry]
    | cons first rest ih =>
      simp only [insertEntry]
      split <;> simp_all
  · rw [if_neg same]
    have differ : (compare other key == .eq) = false := by simpa using same
    induction entries with
    | nil => simp [insertEntry, differ]
    | cons first rest ih =>
      simp only [insertEntry]
      split
      · simp [differ]
      · next equal =>
        have keys := Std.LawfulEqOrd.eq_of_compare equal
        simp [differ, ← keys]
      · simp only [List.find?_cons, ih]

theorem get?_insert [Std.TransOrd κ] [Std.LawfulEqOrd κ] [DecidableEq κ]
    (dictionary : Dictionary κ α) (key other : κ) (value : α) :
    (dictionary.insert key value).get? other =
      if other = key then some value else dictionary.get? other := by
  simp only [get?, insert, find_insertEntry]
  split <;> rfl

theorem get?_erase [Std.LawfulEqOrd κ] [DecidableEq κ] (dictionary : Dictionary κ α)
    (key other : κ) :
    (dictionary.erase key).get? other = if other = key then none else dictionary.get? other := by
  simp only [get?, erase, List.find?_filter]
  by_cases same : other = key
  · subst same; simp
  · simp only [if_neg same]
    congr 2
    funext entry
    by_cases equal : compare other entry.1 = .eq
    · have keys := Std.LawfulEqOrd.eq_of_compare equal
      have differ : compare key entry.1 ≠ .eq := fun h =>
        same (keys.trans (Std.LawfulEqOrd.eq_of_compare h).symm)
      simp [equal, differ]
    · simp [equal]

end Dictionary

end ReqlLua
