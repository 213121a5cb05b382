import ReqlLua.Proofs.Binding.Resolution
import ReqlLua.Proofs.Lua.Keyword
import ReqlLua.Proofs.Protocol.Acceptance

/-! Which catalogs the names of the query language refuse. An identifier without an override can be read off its
name, so two terms have one name only if an override gives one of them the lower case of the other. -/

namespace ReqlLua

namespace MethodNames

/-! ### Identifiers with one name -/

/-- Identifiers with an override, each beside the identifier whose lower case the override is. -/
def rivals : List (String × String) :=
  [("AND", "AND_"), ("BRACKET", "INDEX"), ("ERROR", "ERROR_"), ("FUNCALL", "DO_"), ("JAVASCRIPT", "JS"),
    ("NOT", "NOT_"), ("OR", "OR_")]

theorem mem_rivals_iff {overridden other : String} (wellFormed : Catalog.isIdentifier other = true) :
    (overridden, other) ∈ rivals ↔ reql.get? overridden = some (Text.lowercase other) := by
  have overrides : ∀ pair ∈ rivals, reql.get? pair.1 = some (Text.lowercase pair.2) := by decide
  have complete : ∀ entry ∈ reql.entries, (entry.1, entry.2.toUpper) ∈ rivals := by decide +kernel
  constructor
  · exact fun member => overrides _ member
  · intro found
    have listed := complete _ (Dictionary.mem_of_get? found)
    rwa [toUpper_lowercase wellFormed] at listed

/-- Identifiers without an override have different names. -/
theorem eq_of_nameOf {names : MethodNames} {first second : String}
    (wellFormed : Catalog.isIdentifier first = true) (wellFormed' : Catalog.isIdentifier second = true)
    (plain : names.get? first = none) (plain' : names.get? second = none)
    (same : names.nameOf first = names.nameOf second) : first = second := by
  rw [nameOf, nameOf, plain, plain', Option.getD_none, Option.getD_none] at same
  rw [← toUpper_lowercase wellFormed, same, toUpper_lowercase wellFormed']

/-- Different identifiers that the query language gives one name are rivals. -/
theorem rivals_of_nameOf {first second : String} (wellFormed : Catalog.isIdentifier first = true)
    (wellFormed' : Catalog.isIdentifier second = true) (differ : first ≠ second)
    (same : reql.nameOf first = reql.nameOf second) :
    (first, second) ∈ rivals ∨ (second, first) ∈ rivals := by
  have distinct : ∀ entry ∈ reql.entries, ∀ other ∈ reql.entries,
      entry.2 = other.2 → entry.1 = other.1 := by decide
  cases found : reql.get? first with
  | none =>
    cases found' : reql.get? second with
    | none => exact absurd (eq_of_nameOf wellFormed wellFormed' found found' same) differ
    | some name =>
      rw [nameOf, nameOf, found, found', Option.getD_none, Option.getD_some] at same
      rw [← same] at found'
      exact .inr ((mem_rivals_iff wellFormed).2 found')
  | some name =>
    cases found' : reql.get? second with
    | none =>
      rw [nameOf, nameOf, found, found', Option.getD_none, Option.getD_some] at same
      rw [same] at found
      exact .inl ((mem_rivals_iff wellFormed').2 found)
    | some other =>
      rw [nameOf, nameOf, found, found', Option.getD_some, Option.getD_some] at same
      exact absurd (distinct _ (Dictionary.mem_of_get? found) _ (Dictionary.mem_of_get? found') same) differ

theorem nameOf_rivals {pair : String × String} (member : pair ∈ rivals) :
    pair.1 ≠ pair.2 ∧ reql.nameOf pair.1 = reql.nameOf pair.2 := by
  have table : ∀ pair ∈ rivals, pair.1 ≠ pair.2 ∧ reql.nameOf pair.1 = reql.nameOf pair.2 := by decide
  exact table pair member

/-! ### Catalogs -/

variable {enumeration : Enumeration} {catalog : Catalog}

theorem not_resolvable_of_rivals {identifiers : List String} {pair : String × String}
    (member : pair ∈ rivals) (first : pair.1 ∈ identifiers) (second : pair.2 ∈ identifiers) :
    ¬Resolvable reql identifiers := by
  obtain ⟨differ, same⟩ := nameOf_rivals member
  exact fun resolvable => differ (List.inj_on_of_nodup_map resolvable.distinct first second same)

/-- A term that cannot be named is the rival of one before it. -/
theorem rivals_of_refused (accepted : Catalog.ofEnumeration enumeration = .ok catalog)
    {before after : List String} {identifier : String}
    (split : catalog.identifiers = before ++ identifier :: after) {fault : NamingFault}
    (refused : Refused reql before identifier fault) :
    ∃ first ∈ before, first < identifier ∧
      ((first, identifier) ∈ rivals ∨ (identifier, first) ∈ rivals) ∧
      fault = .sharedName (reql.nameOf first) first identifier := by
  have wellFormed := Catalog.isIdentifier_of_mem accepted
  rw [split] at wellFormed
  have here := wellFormed identifier (by simp)
  cases refused with
  | emptyName empty =>
    have overrides : ∀ entry ∈ reql.entries, isMethodName entry.2 = true := by decide
    have method := isMethodName_nameOf overrides here
    rw [empty] at method
    exact absurd method (by decide)
  | @sharedName first nonempty member same =>
    have increasing : catalog.identifiers.Pairwise (· < ·) :=
      (Catalog.lists_of_ofEnumeration accepted).increasing.map _ fun _ _ less => less
    rw [split, List.pairwise_append] at increasing
    have less := increasing.2.2 first member identifier List.mem_cons_self
    have there := wellFormed first (List.mem_append_left _ member)
    refine ⟨first, member, less, rivals_of_nameOf there here less.ne same, ?_⟩
    rw [same]

end MethodNames

namespace Generator

open MethodNames

variable {home : Location}

theorem on_planBindings_error {tables : Tables} {catalog : Catalog} {tree left : FileTree home} {failure : Failure} :
    Attempt.on (planBindings tables catalog) tree = (.error failure, left) ↔
      tree = left ∧ ∃ fault, tables.names.resolve catalog = .error fault ∧ failure = .naming fault := by
  rw [on_planBindings, Binding.ofCatalog]
  cases tables.names.resolve catalog with
  | error fault =>
    constructor
    · intro failed
      cases failed
      exact ⟨rfl, fault, rfl, rfl⟩
    · rintro ⟨rfl, _, ⟨⟩, rfl⟩
      rfl
  | ok given =>
    constructor
    · intro failed
      cases failed
    · rintro ⟨-, _, ⟨⟩, -⟩

theorem rivals_of_failed {enumeration : Enumeration} {catalog : Catalog}
    (accepted : Catalog.ofEnumeration enumeration = .ok catalog) {tree left : FileTree home} {failure : Failure}
    (failed : Attempt.on (planBindings .reql catalog) tree = (.error failure, left)) :
    ∃ first ∈ catalog.identifiers, ∃ second ∈ catalog.identifiers, first < second ∧
      ((first, second) ∈ rivals ∨ (second, first) ∈ rivals) ∧
      failure = .naming (.sharedName (reql.nameOf first) first second) := by
  obtain ⟨-, fault, unnamed, rfl⟩ := on_planBindings_error.1 failed
  rcases resolve_run reql catalog with
    ⟨-, given, named⟩ | ⟨before, identifier, after, other, split, -, refused, named⟩
  · cases unnamed.symm.trans named
  · cases unnamed.symm.trans named
    obtain ⟨first, member, less, rivals, rfl⟩ := rivals_of_refused accepted split refused
    rw [split]
    exact ⟨first, List.mem_append_left _ member, identifier, by simp, less, rivals, rfl⟩

/-- Terms without an override never share a name. The names of the query language fail exactly for the catalogs
with a pair of rivals, and the fault then names such a pair. -/
theorem planBindings_fails_iff_rivals {enumeration : Enumeration} {catalog : Catalog}
    (accepted : Catalog.ofEnumeration enumeration = .ok catalog) (tree : FileTree home) :
    (∀ names : MethodNames, ∀ first ∈ catalog.identifiers, ∀ second ∈ catalog.identifiers,
        names.get? first = none → names.get? second = none →
          names.nameOf first = names.nameOf second → first = second) ∧
      ((∃ failure left, Attempt.on (planBindings .reql catalog) tree = (.error failure, left)) ↔
        ∃ pair ∈ rivals, pair.1 ∈ catalog.identifiers ∧ pair.2 ∈ catalog.identifiers) ∧
      ∀ failure left, Attempt.on (planBindings .reql catalog) tree = (.error failure, left) →
        ∃ first ∈ catalog.identifiers, ∃ second ∈ catalog.identifiers, first < second ∧
          ((first, second) ∈ rivals ∨ (second, first) ∈ rivals) ∧
          failure = .naming (.sharedName (reql.nameOf first) first second) := by
  have wellFormed := Catalog.isIdentifier_of_mem accepted
  refine ⟨fun names first member second member' plain plain' same => ?_, ?_, ?_⟩
  · exact eq_of_nameOf (wellFormed first member) (wellFormed second member') plain plain' same
  · constructor
    · rintro ⟨failure, left, failed⟩
      obtain ⟨first, member, second, member', -, rivals, -⟩ := rivals_of_failed accepted failed
      rcases rivals with rivals | rivals
      · exact ⟨_, rivals, member, member'⟩
      · exact ⟨_, rivals, member', member⟩
    · rintro ⟨pair, rivals, member, member'⟩
      rcases resolve_run reql catalog with
        ⟨resolvable, -⟩ | ⟨before, identifier, after, fault, -, -, -, failed⟩
      · exact absurd resolvable (not_resolvable_of_rivals rivals member member')
      · exact ⟨.naming fault, tree, on_planBindings_error.2 ⟨rfl, fault, failed, rfl⟩⟩
  · exact fun failure left failed => rivals_of_failed accepted failed

/-- The rival stands before the term whose override it clashes with; of another pair one is missing. -/
theorem planBindings_fails_iff_rivals_funcall :
    let terms : Enumeration := .ofList [("INDEX", 1), ("DATUM", 2), ("FUNCALL", 64), ("DO_", 3)]
    let catalog : Catalog := ⟨[⟨"DO_", 3⟩, ⟨"FUNCALL", 64⟩, ⟨"INDEX", 1⟩]⟩
    Catalog.ofEnumeration terms = .ok catalog ∧
      Attempt.on (planBindings .reql catalog) .bare =
        (.error (.naming (.sharedName "do_" "DO_" "FUNCALL")), .bare) := by
  intro terms catalog
  have accepted : Catalog.ofEnumeration terms = .ok catalog := by rfl
  obtain ⟨-, fails, blames⟩ := planBindings_fails_iff_rivals accepted .bare
  obtain ⟨failure, left, failed⟩ := fails.2 ⟨("FUNCALL", "DO_"), by decide, by decide, by decide⟩
  obtain ⟨first, member, second, member', less, rivals, rfl⟩ := blames failure left failed
  have only : ∀ first ∈ catalog.identifiers, ∀ second ∈ catalog.identifiers, first < second →
      (first, second) ∈ MethodNames.rivals ∨ (second, first) ∈ MethodNames.rivals →
        first = "DO_" ∧ second = "FUNCALL" := by decide
  obtain ⟨rfl, rfl⟩ := only first member second member' less rivals
  obtain ⟨rfl, -⟩ := on_planBindings_error.1 failed
  exact ⟨accepted, failed⟩

end Generator

end ReqlLua
