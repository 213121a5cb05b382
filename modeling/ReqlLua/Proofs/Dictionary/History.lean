import ReqlLua.Proofs.Dictionary

/-! What a dictionary holds after any number of insertions: under each key the last value that was given to
it. Whatever stood under other keys before is still there. -/

namespace ReqlLua.Dictionary

variable {κ α : Type} [DecidableEq κ]

/-- The values that a list of entries gives to a key, in turn. -/
def valuesOf (key : κ) (entries : List (κ × α)) : List α :=
  (entries.filter fun entry => entry.1 = key).map (·.2)

theorem valuesOf_cons (key : κ) (entry : κ × α) (entries : List (κ × α)) :
    valuesOf key (entry :: entries) =
      if entry.1 = key then entry.2 :: valuesOf key entries else valuesOf key entries := by
  simp only [valuesOf, List.filter_cons, decide_eq_true_eq]
  split <;> rfl

theorem mem_valuesOf {key : κ} {value : α} {entries : List (κ × α)} :
    value ∈ valuesOf key entries ↔ (key, value) ∈ entries := by
  simp [valuesOf]

variable [Ord κ] [Std.TransOrd κ] [Std.LawfulEqOrd κ]

/-- The value that came last wins over earlier ones and over what the dictionary held before. -/
theorem get?_foldl_valuesOf (key : κ) (entries : List (κ × α)) (dictionary : Dictionary κ α) :
    (entries.foldl (fun dictionary entry => dictionary.insert entry.1 entry.2) dictionary).get? key =
      (valuesOf key entries).getLast?.or (dictionary.get? key) := by
  induction entries generalizing dictionary with
  | nil => rfl
  | cons entry entries ih =>
    rw [List.foldl_cons, ih, get?_insert, valuesOf_cons]
    by_cases here : entry.1 = key
    · rw [if_pos here.symm, if_pos here, List.getLast?_cons]
      cases (valuesOf key entries).getLast? <;> rfl
    · rw [if_neg (Ne.symm here), if_neg here]

theorem get?_ofList_valuesOf (key : κ) (entries : List (κ × α)) :
    (ofList entries).get? key = (valuesOf key entries).getLast? := by
  rw [ofList, get?_foldl_valuesOf, get?_empty, Option.or_none]

/-- A key is held exactly if some entry gives it a value. -/
theorem contains_ofList_iff {key : κ} {entries : List (κ × α)} :
    (ofList entries).contains key = true ↔ ∃ value, (key, value) ∈ entries := by
  rw [contains, get?_ofList_valuesOf, List.getLast?_isSome]
  constructor
  · intro nonempty
    obtain ⟨value, member⟩ := List.exists_mem_of_ne_nil _ nonempty
    exact ⟨value, mem_valuesOf.1 member⟩
  · rintro ⟨value, member⟩
    exact List.ne_nil_of_mem (mem_valuesOf.2 member)

end ReqlLua.Dictionary
