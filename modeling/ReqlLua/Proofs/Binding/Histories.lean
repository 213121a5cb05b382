import ReqlLua.Binding.Wrapper
import ReqlLua.Proofs.Dictionary.History

/-! Wrapper tables that were filled by any calls in any order. The last fixed arity of an identifier counts;
an options tail counts only where no arity was ever fixed. -/

namespace ReqlLua.WrapperTable

open Dictionary

/-- What is done to a table. -/
inductive Call where
  | optionsTail (identifier : String)
  | fixedArity (identifier : String) (count : Nat)

def take (table : WrapperTable) : Call → WrapperTable
  | .optionsTail identifier => table.withOptionsTail identifier
  | .fixedArity identifier count => table.withFixedArity identifier count

/-- The table after calls, the first of the list made first. -/
def after (table : WrapperTable) (calls : List Call) : WrapperTable := calls.foldl take table

/-- The tables that are not made from other tables. -/
inductive Base where
  | empty
  | reql

def Base.table : Base → WrapperTable
  | .empty => .empty
  | .reql => .reql

/-- The entries of a table that is there from the start, as calls. -/
def Base.calls : Base → List Call
  | .empty => []
  | .reql => reqlOptionsTail.map .optionsTail ++
      reqlFixedArity.map fun entry => .fixedArity entry.1 entry.2

def Call.tail? : Call → Option (String × Unit)
  | .optionsTail identifier => some (identifier, ())
  | .fixedArity _ _ => none

def Call.arity? : Call → Option (String × Nat)
  | .optionsTail _ => none
  | .fixedArity identifier count => some (identifier, count)

/-- The arities that calls fix for an identifier, in turn. -/
def aritiesOf (identifier : String) (calls : List Call) : List Nat :=
  valuesOf identifier (calls.filterMap Call.arity?)

theorem mem_aritiesOf {identifier : String} {count : Nat} {calls : List Call} :
    count ∈ aritiesOf identifier calls ↔ .fixedArity identifier count ∈ calls := by
  rw [aritiesOf, mem_valuesOf, List.mem_filterMap]
  constructor
  · rintro ⟨⟨⟩ | ⟨other, given⟩, member, same⟩
    · cases same
    · cases same
      exact member
  · exact fun member => ⟨_, member, rfl⟩

theorem mem_tails {identifier : String} {calls : List Call} :
    (identifier, ()) ∈ calls.filterMap Call.tail? ↔ .optionsTail identifier ∈ calls := by
  rw [List.mem_filterMap]
  constructor
  · rintro ⟨⟨other⟩ | ⟨⟩, member, same⟩
    · cases same
      exact member
    · cases same
  · exact fun member => ⟨_, member, rfl⟩

/-! ### Tables and their histories -/

theorem table_after (base : Base) (calls : List Call) :
    base.table.after calls = empty.after (base.calls ++ calls) := by
  cases base with
  | empty => rfl
  | reql =>
    have entries : reql = empty.after Base.reql.calls := by
      rw [reql, Base.calls, after, List.foldl_append, List.foldl_map, List.foldl_map]
      rfl
    rw [Base.table, entries, after, after, after, List.foldl_append]

theorem optionsTail_after (table : WrapperTable) (calls : List Call) :
    (table.after calls).optionsTail = (calls.filterMap Call.tail?).foldl
      (fun dictionary entry => dictionary.insert entry.1 entry.2) table.optionsTail := by
  induction calls generalizing table with
  | nil => rfl
  | cons call calls ih => cases call <;> exact ih _

theorem fixedArity_after (table : WrapperTable) (calls : List Call) :
    (table.after calls).fixedArity = (calls.filterMap Call.arity?).foldl
      (fun dictionary entry => dictionary.insert entry.1 entry.2) table.fixedArity := by
  induction calls generalizing table with
  | nil => rfl
  | cons call calls ih => cases call <;> exact ih _

variable {history calls others : List Call} {identifier : String}

/-- An identifier has an options tail exactly if it was ever listed with one. -/
theorem optionsTail_iff :
    (empty.after history).optionsTail.contains identifier = true ↔ .optionsTail identifier ∈ history := by
  rw [optionsTail_after]
  exact contains_ofList_iff.trans
    ⟨fun ⟨_, member⟩ => mem_tails.1 member, fun member => ⟨(), mem_tails.2 member⟩⟩

/-- The arity of an identifier is the last one that was fixed for it. -/
theorem fixedArity_eq (history : List Call) (identifier : String) :
    (empty.after history).fixedArity.get? identifier = (aritiesOf identifier history).getLast? := by
  rw [fixedArity_after]
  exact get?_ofList_valuesOf identifier _

theorem fixedArity_iff :
    (empty.after history).fixedArity.contains identifier = true ↔
      ∃ count, .fixedArity identifier count ∈ history := by
  rw [contains, fixedArity_eq, List.getLast?_isSome]
  constructor
  · intro nonempty
    obtain ⟨count, member⟩ := List.exists_mem_of_ne_nil _ nonempty
    exact ⟨count, mem_aritiesOf.1 member⟩
  · rintro ⟨count, member⟩
    exact List.ne_nil_of_mem (mem_aritiesOf.2 member)

/-! ### Wrappers -/

/-- What a history makes of the method of an identifier. -/
def Decides (history : List Call) (identifier : String) : Wrapper → Prop
  | .fixedArity count => (aritiesOf identifier history).getLast? = some count
  | .optionsTail => aritiesOf identifier history = [] ∧ .optionsTail identifier ∈ history
  | .plain => aritiesOf identifier history = [] ∧ .optionsTail identifier ∉ history

theorem wrapper_eq_iff {wrapper : Wrapper} :
    (empty.after history).wrapper identifier = wrapper ↔ Decides history identifier wrapper := by
  rw [WrapperTable.wrapper, fixedArity_eq]
  cases last : (aritiesOf identifier history).getLast? with
  | some count =>
    have nonempty : aritiesOf identifier history ≠ [] := fun none => by simp [none] at last
    cases wrapper <;> simp [Decides, last, nonempty]
  | none =>
    have none : aritiesOf identifier history = [] := List.getLast?_eq_none_iff.1 last
    by_cases listed : .optionsTail identifier ∈ history
    · simp only [if_pos (optionsTail_iff.2 listed)]
      cases wrapper <;> simp [Decides, none, listed]
    · simp only [if_neg (mt optionsTail_iff.1 listed)]
      cases wrapper <;> simp [Decides, none, listed]

/-! ### Identifiers that are listed both ways -/

theorem mem_dualListed {table : WrapperTable} :
    identifier ∈ table.dualListed ↔
      table.optionsTail.contains identifier = true ∧ table.fixedArity.contains identifier = true := by
  rw [dualListed, List.mem_filter, mem_keys_iff]

theorem sorted_dualListed (table : WrapperTable) : table.dualListed.Pairwise (· < ·) := by
  apply List.Pairwise.filter
  apply List.Pairwise.map _ _ table.optionsTail.sorted
  exact fun _ _ less => compareOfLessAndEq_eq_lt.1 less

theorem wrapper_of_mem_dualListed {table : WrapperTable} (listed : identifier ∈ table.dualListed) :
    ∃ count, table.wrapper identifier = .fixedArity count := by
  obtain ⟨count, found⟩ := Option.isSome_iff_exists.1 (mem_dualListed.1 listed).2
  refine ⟨count, ?_⟩
  rw [WrapperTable.wrapper, found]

/-! ### Histories in another order -/

/-- The same calls, those that fix the arity of one identifier in the same order. -/
structure Reordered (calls others : List Call) : Prop where
  perm : calls.Perm others
  arities : ∀ identifier, aritiesOf identifier calls = aritiesOf identifier others

theorem aritiesOf_append (identifier : String) (first second : List Call) :
    aritiesOf identifier (first ++ second) = aritiesOf identifier first ++ aritiesOf identifier second := by
  simp only [aritiesOf, valuesOf, List.filterMap_append, List.filter_append, List.map_append]

theorem Reordered.behind (reordered : Reordered calls others) (earlier : List Call) :
    Reordered (earlier ++ calls) (earlier ++ others) where
  perm := reordered.perm.append_left earlier
  arities identifier := by rw [aritiesOf_append, aritiesOf_append, reordered.arities]

theorem Reordered.after_eq (reordered : Reordered calls others) : empty.after calls = empty.after others := by
  have tails : (empty.after calls).optionsTail = (empty.after others).optionsTail := by
    apply eq_of_get?
    intro identifier
    apply Option.ext
    rintro ⟨⟩
    have unit (table : Dictionary String Unit) :
        table.get? identifier = some () ↔ table.contains identifier = true := by
      rw [contains, Option.isSome_iff_exists]
      constructor
      · intro found
        exact ⟨(), found⟩
      · rintro ⟨⟨⟩, found⟩
        exact found
    rw [unit, unit, optionsTail_iff, optionsTail_iff, reordered.perm.mem_iff]
  have arities : (empty.after calls).fixedArity = (empty.after others).fixedArity := by
    apply eq_of_get?
    intro identifier
    rw [fixedArity_eq, fixedArity_eq, reordered.arities]
  calc
    _ = WrapperTable.mk (empty.after calls).optionsTail (empty.after calls).fixedArity := rfl
    _ = WrapperTable.mk (empty.after others).optionsTail (empty.after others).fixedArity := by
      rw [tails, arities]

/-- Whatever calls were made on the empty table or on that of the query language, whose entries count as
earlier calls, the last fixed arity of an identifier decides its wrapper, and an options tail only where no
arity was fixed. The identifiers listed both ways come in increasing order, and all of them have a fixed
arity. The order of the calls makes no difference but for those that fix the arity of one identifier. -/
theorem wrapper_of_history (base : Base) (calls : List Call) :
    let history := base.calls ++ calls
    let table := base.table.after calls
    (∀ identifier wrapper, table.wrapper identifier = wrapper ↔ Decides history identifier wrapper) ∧
    table.dualListed.Pairwise (· < ·) ∧
    (∀ identifier, identifier ∈ table.dualListed ↔
      .optionsTail identifier ∈ history ∧ ∃ count, .fixedArity identifier count ∈ history) ∧
    (∀ identifier ∈ table.dualListed, ∃ count, table.wrapper identifier = .fixedArity count) ∧
    ∀ others, Reordered calls others →
      (∀ identifier, (base.table.after others).wrapper identifier = table.wrapper identifier) ∧
        (base.table.after others).dualListed = table.dualListed := by
  intro history table
  have made : table = empty.after history := table_after base calls
  refine ⟨?_, sorted_dualListed table, ?_, fun _ => wrapper_of_mem_dualListed, ?_⟩
  · intro identifier wrapper
    rw [made]
    exact wrapper_eq_iff
  · intro identifier
    rw [mem_dualListed, made, optionsTail_iff, fixedArity_iff]
  · intro others reordered
    have same : base.table.after others = table := by
      rw [made, table_after]
      exact (reordered.behind base.calls).after_eq.symm
    rw [same]
    exact ⟨fun _ => rfl, rfl⟩

-- The arity fixed last counts, whatever was listed in between.
example : (empty.after [.fixedArity "SLICE" 1, .optionsTail "SLICE", .fixedArity "SLICE" 3]).wrapper "SLICE" =
    .fixedArity 3 := by rfl

end ReqlLua.WrapperTable
