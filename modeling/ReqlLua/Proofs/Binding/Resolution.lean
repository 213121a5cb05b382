import Mathlib.Data.List.Nodup
import Mathlib.Order.Bounds.Defs
import ReqlLua.Proofs.Binding.Naming

/-! Naming the terms of a catalog. They all receive their names if no name is empty and no two are alike;
otherwise the first term that cannot be named decides the fault. -/

namespace ReqlLua.MethodNames

variable {names : MethodNames}

/-- No name is empty, and no two identifiers have the same. -/
structure Resolvable (names : MethodNames) (identifiers : List String) : Prop where
  nonempty : ∀ identifier ∈ identifiers, names.nameOf identifier ≠ ""
  distinct : (identifiers.map names.nameOf).Nodup

theorem resolvable_nil (names : MethodNames) : Resolvable names [] :=
  ⟨List.forall_mem_nil _, List.nodup_nil⟩

/-! ### Naming in order -/

/-- The names of identifiers with their owners, the last one first. -/
def owned (names : MethodNames) (identifiers : List String) : List (String × String) :=
  (identifiers.map fun identifier => (names.nameOf identifier, identifier)).reverse

theorem owned_concat (before : List String) (identifier : String) :
    names.owned (before ++ [identifier]) = (names.nameOf identifier, identifier) :: names.owned before := by
  simp [owned]

theorem lookup_owned_some {before : List String} {name first : String}
    (found : (names.owned before).lookup name = some first) :
    first ∈ before ∧ names.nameOf first = name := by
  obtain ⟨front, back, split, -⟩ := List.lookup_eq_some_iff.1 found
  have member : (name, first) ∈ names.owned before := by
    rw [split]
    simp
  rw [owned, List.mem_reverse, List.mem_map] at member
  obtain ⟨identifier, among, same⟩ := member
  cases same
  exact ⟨among, rfl⟩

theorem lookup_owned_none {before : List String} {name : String}
    (missing : (names.owned before).lookup name = none) : name ∉ before.map names.nameOf := by
  intro member
  obtain ⟨identifier, among, rfl⟩ := List.mem_map.1 member
  have entry : (names.nameOf identifier, identifier) ∈ names.owned before :=
    List.mem_reverse.2 (List.mem_map_of_mem among)
  simpa using List.lookup_eq_none_iff.1 missing _ entry

/-- Why an identifier cannot be named behind others. -/
inductive Refused (names : MethodNames) (before : List String) (identifier : String) : NamingFault → Prop
  | emptyName (empty : names.nameOf identifier = "") : Refused names before identifier (.emptyName identifier)
  | sharedName {first : String} (nonempty : names.nameOf identifier ≠ "") (member : first ∈ before)
      (same : names.nameOf first = names.nameOf identifier) :
      Refused names before identifier (.sharedName (names.nameOf identifier) first identifier)

/-- Behind identifiers that are named, the next one is named as well or decides the fault. -/
theorem resolveFrom_step {before : List String} (resolvable : Resolvable names before)
    (identifier : String) (rest : List String) :
    (Resolvable names (before ++ [identifier]) ∧
        names.resolveFrom (names.owned before) (identifier :: rest) =
          (names.resolveFrom (names.owned (before ++ [identifier])) rest).map
            (names.nameOf identifier :: ·)) ∨
      ∃ fault, Refused names before identifier fault ∧
        names.resolveFrom (names.owned before) (identifier :: rest) = .error fault := by
  rw [resolveFrom]
  by_cases empty : names.nameOf identifier = ""
  · exact .inr ⟨_, .emptyName empty, if_pos empty⟩
  rw [if_neg empty, owned_concat]
  cases found : (names.owned before).lookup (names.nameOf identifier) with
  | some first =>
    obtain ⟨member, same⟩ := lookup_owned_some found
    exact .inr ⟨_, .sharedName empty member same, rfl⟩
  | none =>
    have fresh := lookup_owned_none found
    refine .inl ⟨⟨?_, ?_⟩, rfl⟩
    · intro other member
      rcases List.mem_append.1 member with member | member
      · exact resolvable.nonempty other member
      · exact List.mem_singleton.1 member ▸ empty
    · rw [List.map_append, List.map_singleton, ← List.concat_eq_append]
      exact resolvable.distinct.concat fresh

/-- The identifiers are named one after the other, to the end or up to the first that cannot be. -/
theorem resolveFrom_run {before : List String} (resolvable : Resolvable names before)
    (rest : List String) :
    (Resolvable names (before ++ rest) ∧
        ∃ given, names.resolveFrom (names.owned before) rest = .ok given) ∨
      ∃ named identifier after fault, rest = named ++ identifier :: after ∧
        Resolvable names (before ++ named) ∧ Refused names (before ++ named) identifier fault ∧
        names.resolveFrom (names.owned before) rest = .error fault := by
  induction rest generalizing before with
  | nil => exact .inl ⟨by rwa [List.append_nil], [], rfl⟩
  | cons identifier rest ih =>
    rcases resolveFrom_step resolvable identifier rest with ⟨longer, step⟩ | ⟨fault, refused, step⟩
    · rw [step]
      rcases ih longer with
        ⟨all, given, run⟩ | ⟨named, other, after, fault, rfl, passed, refused, run⟩
      · rw [List.append_assoc] at all
        exact .inl ⟨all, _, by rw [run]; rfl⟩
      · rw [List.append_assoc] at passed refused
        exact .inr ⟨identifier :: named, other, after, fault, rfl, passed, refused, by rw [run]; rfl⟩
    · refine .inr ⟨[], identifier, rest, fault, rfl, ?_, ?_, step⟩
      · rwa [List.append_nil]
      · rwa [List.append_nil]

theorem resolve_run (names : MethodNames) (catalog : Catalog) :
    (Resolvable names catalog.identifiers ∧ ∃ given, names.resolve catalog = .ok given) ∨
      ∃ named identifier after fault, catalog.identifiers = named ++ identifier :: after ∧
        Resolvable names named ∧ Refused names named identifier fault ∧
        names.resolve catalog = .error fault :=
  resolveFrom_run (resolvable_nil names) catalog.identifiers

/-! ### Places -/

/-- The name of the identifier at this place is empty or belongs to an earlier one. -/
def Blocked (names : MethodNames) (identifiers : List String) (place : Fin identifiers.length) : Prop :=
  names.nameOf identifiers[place] = "" ∨
    ∃ earlier < place, names.nameOf identifiers[earlier] = names.nameOf identifiers[place]

/-- What is said about an identifier that is blocked: that its name is empty, or else its name and the one
earlier identifier that has it. -/
inductive Blames (names : MethodNames) (identifiers : List String) (place : Fin identifiers.length) :
    NamingFault → Prop
  | emptyName (empty : names.nameOf identifiers[place] = "") :
      Blames names identifiers place (.emptyName identifiers[place])
  | sharedName {owner : Fin identifiers.length} (nonempty : names.nameOf identifiers[place] ≠ "")
      (shared : ∀ earlier, earlier < place ∧
        names.nameOf identifiers[earlier] = names.nameOf identifiers[place] ↔ earlier = owner) :
      Blames names identifiers place
        (.sharedName (names.nameOf identifiers[place]) identifiers[owner] identifiers[place])

/-- Distinct names stand at distinct places. -/
theorem Resolvable.place_eq {identifiers : List String} (resolvable : Resolvable names identifiers)
    {first second : Nat} (inside : first < identifiers.length) (inside' : second < identifiers.length)
    (same : names.nameOf identifiers[first] = names.nameOf identifiers[second]) : first = second := by
  have given : first < (identifiers.map names.nameOf).length := by simpa using inside
  have given' : second < (identifiers.map names.nameOf).length := by simpa using inside'
  have equal : (identifiers.map names.nameOf)[first] = (identifiers.map names.nameOf)[second] := by
    simpa using same
  exact resolvable.distinct.getElem_inj_iff.1 equal

theorem not_resolvable_of_blocked {identifiers : List String} {place : Fin identifiers.length}
    (blocked : Blocked names identifiers place) : ¬Resolvable names identifiers := by
  intro resolvable
  rcases blocked with empty | ⟨earlier, less, shared⟩
  · exact resolvable.nonempty _ (List.getElem_mem place.isLt) empty
  · exact absurd (resolvable.place_eq earlier.isLt place.isLt shared) (Nat.ne_of_lt less)

section

variable {identifiers before after : List String} {identifier : String}

/-- Before the first identifier that cannot be named, nothing is blocked. -/
theorem not_blocked_before (split : identifiers = before ++ identifier :: after)
    (resolvable : Resolvable names before) {place : Fin identifiers.length}
    (inside : place.val < before.length) : ¬Blocked names identifiers place := by
  subst split
  have here (other : Fin (before ++ identifier :: after).length) (inside : other.val < before.length) :
      (before ++ identifier :: after)[other] = before[other.val] := List.getElem_append_left inside
  intro blocked
  have blocked' : Blocked names before ⟨place.val, inside⟩ := by
    rcases blocked with empty | ⟨earlier, less, shared⟩
    · rw [here place inside] at empty
      exact .inl empty
    · have inside' : earlier.val < before.length := Nat.lt_trans less inside
      rw [here place inside, here earlier inside'] at shared
      exact .inr ⟨⟨earlier.val, inside'⟩, less, shared⟩
  exact not_resolvable_of_blocked blocked' resolvable

/-- The first identifier that cannot be named is blocked, and the fault tells why. -/
theorem blocked_of_refused (split : identifiers = before ++ identifier :: after)
    (resolvable : Resolvable names before) {fault : NamingFault}
    (refused : Refused names before identifier fault) :
    ∃ place, (∀ other, Blocked names identifiers other → place ≤ other) ∧
      Blocked names identifiers place ∧ Blames names identifiers place fault := by
  let place : Fin identifiers.length := ⟨before.length, by simp [split]⟩
  refine ⟨place, fun other blocked => ?_, ?_⟩
  · exact Fin.not_lt.1 fun less => not_blocked_before split resolvable less blocked
  have standing : identifiers[place] = identifier := by simp [place, split]
  have here (other : Fin identifiers.length) (inside : other.val < before.length) :
      identifiers[other] = before[other.val] := by simp [split, List.getElem_append_left inside]
  rw [← standing] at refused
  generalize standing' : identifiers[place] = term at refused
  cases refused with
  | emptyName empty =>
    subst standing'
    exact ⟨.inl empty, .emptyName empty⟩
  | @sharedName first nonempty member same =>
    subst standing'
    obtain ⟨index, inside, rfl⟩ := List.getElem_of_mem member
    let owner : Fin identifiers.length := ⟨index, Nat.lt_trans inside place.isLt⟩
    have shared (earlier : Fin identifiers.length) : earlier < place ∧
        names.nameOf identifiers[earlier] = names.nameOf identifiers[place] ↔ earlier = owner := by
      constructor
      · rintro ⟨less, shared⟩
        rw [here earlier less, ← same] at shared
        exact Fin.ext (resolvable.place_eq less inside shared)
      · rintro rfl
        exact ⟨inside, by rw [here owner inside, same]⟩
    have blames := Blames.sharedName nonempty shared
    rw [here owner inside] at blames
    exact ⟨.inr ⟨owner, (shared owner).2 rfl⟩, blames⟩

end

/-- The terms of a catalog all receive their names exactly if these are not empty and pairwise distinct.
Otherwise the fault is that of the first identifier whose name is empty or belongs to an earlier one. -/
theorem resolve_exact (names : MethodNames) (catalog : Catalog) :
    ((∃ given, names.resolve catalog = .ok given) ↔ Resolvable names catalog.identifiers) ∧
      (∀ given, names.resolve catalog = .ok given → given = catalog.identifiers.map names.nameOf) ∧
      (¬Resolvable names catalog.identifiers → ∃ place fault,
        IsLeast {place | Blocked names catalog.identifiers place} place ∧
          Blames names catalog.identifiers place fault ∧ names.resolve catalog = .error fault) := by
  refine ⟨?_, fun given => resolveFrom_ok, ?_⟩
  · rcases resolve_run names catalog with
      ⟨resolvable, named⟩ | ⟨before, identifier, after, fault, split, passed, refused, failed⟩
    · exact iff_of_true named resolvable
    · obtain ⟨place, -, blocked, -⟩ := blocked_of_refused split passed refused
      refine iff_of_false ?_ (not_resolvable_of_blocked blocked)
      rintro ⟨given, named⟩
      rw [failed] at named
      cases named
  · intro unresolvable
    rcases resolve_run names catalog with
      ⟨resolvable, -⟩ | ⟨before, identifier, after, fault, split, passed, refused, failed⟩
    · exact absurd resolvable unresolvable
    · obtain ⟨place, least, blocked, blames⟩ := blocked_of_refused split passed refused
      exact ⟨place, fault, ⟨blocked, least⟩, blames, failed⟩

-- Overrides may clash with each other, and the empty name behind them is not reached.
example : resolve (.ofList [("ADD", "x"), ("DB", "x"), ("GET", "")])
    ⟨[⟨"ADD", 24⟩, ⟨"DB", 14⟩, ⟨"GET", 16⟩]⟩ = .error (.sharedName "x" "ADD" "DB") := by rfl

end ReqlLua.MethodNames
