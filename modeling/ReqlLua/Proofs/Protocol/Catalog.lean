import ReqlLua.Protocol.Catalog
import ReqlLua.Proofs.Dictionary
import ReqlLua.Proofs.Lua.Word

/-! What an enumeration and the catalog built from it have in common. -/

namespace ReqlLua.Catalog

open Lua

theorem isWordChar_of_isFollowing {c : Char} (following : isFollowing c = true) :
    isWordChar c = true := by
  rw [isFollowing, Bool.or_eq_true, Bool.or_eq_true, beq_iff_eq] at following
  apply isWordChar_iff.2
  rcases following with (capital | digit) | underscore
  · exact .inl capital
  · exact .inr (.inr (.inl digit))
  · exact .inr (.inr (.inr underscore))

theorem isFollowing_of_isInitial {c : Char} (initial : isInitial c = true) :
    isFollowing c = true := by
  rw [isInitial, Bool.or_eq_true] at initial
  rw [isFollowing, Bool.or_eq_true, Bool.or_eq_true]
  exact initial.imp_left .inl

theorem isFollowing_of_isIdentifier {name : String} (identifier : isIdentifier name = true) :
    ∀ c ∈ name.toList, isFollowing c = true := by
  rw [isIdentifier] at identifier
  cases shape : name.toList with
  | nil => exact fun _ member => absurd member List.not_mem_nil
  | cons first rest =>
    simp only [shape, Bool.and_eq_true, List.all_eq_true] at identifier
    exact List.forall_mem_cons.2 ⟨isFollowing_of_isInitial identifier.1, identifier.2⟩

theorem isWord_of_isIdentifier {name : String} (identifier : isIdentifier name = true) :
    IsWord name := fun c member =>
  isWordChar_of_isFollowing (isFollowing_of_isIdentifier identifier c member)

theorem isIdentifier_of_check {seen : List (Int64 × String)} {entries : List (String × Int64)}
    (accepted : check seen entries = .ok ()) :
    ∀ entry ∈ entries, isIdentifier entry.1 = true := by
  induction entries generalizing seen with
  | nil => exact fun _ member => absurd member List.not_mem_nil
  | cons first rest ih =>
    intro entry member
    rw [check] at accepted
    split at accepted
    · rename_i identifier
      cases fresh : seen.lookup first.2 with
      | some other => simp [fresh] at accepted
      | none =>
        simp only [fresh] at accepted
        rcases List.mem_cons.1 member with rfl | member
        · exact identifier
        · exact ih accepted entry member
    · cases accepted

/-- A catalog keeps all entries but the reserved ones. -/
theorem terms_of_ofEnumeration {enumeration : Enumeration} {catalog : Catalog}
    (accepted : ofEnumeration enumeration = .ok catalog) :
    check [] enumeration.entries = .ok () ∧
      catalog.terms = (enumeration.entries.filter fun entry => !reserved.contains entry.1).map
        fun entry => ⟨entry.1, entry.2⟩ := by
  unfold ofEnumeration at accepted
  cases checked : check [] enumeration.entries with
  | error fault =>
    rw [checked] at accepted
    cases accepted
  | ok =>
    rw [checked] at accepted
    exact ⟨rfl, (congrArg terms (Except.ok.inj accepted)).symm⟩

variable {enumeration : Enumeration} {catalog : Catalog}

theorem identifiers_of_ofEnumeration (accepted : ofEnumeration enumeration = .ok catalog) :
    catalog.identifiers =
      (enumeration.entries.filter fun entry => !reserved.contains entry.1).map (·.1) := by
  rw [identifiers, (terms_of_ofEnumeration accepted).2, List.map_map]
  rfl

theorem nodup_identifiers (accepted : ofEnumeration enumeration = .ok catalog) :
    catalog.identifiers.Nodup := by
  rw [identifiers_of_ofEnumeration accepted]
  exact Dictionary.nodup_of_sorted (enumeration.sorted.filter _)

theorem not_reserved (accepted : ofEnumeration enumeration = .ok catalog) :
    ∀ identifier ∈ catalog.identifiers, identifier ∉ reserved := by
  intro identifier member
  rw [identifiers_of_ofEnumeration accepted] at member
  obtain ⟨entry, kept, rfl⟩ := List.mem_map.1 member
  simpa using (List.mem_filter.1 kept).2

theorem isIdentifier_of_mem (accepted : ofEnumeration enumeration = .ok catalog) :
    ∀ identifier ∈ catalog.identifiers, isIdentifier identifier = true := by
  intro identifier member
  rw [identifiers_of_ofEnumeration accepted] at member
  obtain ⟨entry, kept, rfl⟩ := List.mem_map.1 member
  have checked := (terms_of_ofEnumeration accepted).1
  exact isIdentifier_of_check checked entry (List.mem_filter.1 kept).1

theorem isIdentifier_of_term (accepted : ofEnumeration enumeration = .ok catalog) :
    ∀ term ∈ catalog.terms, isIdentifier term.identifier = true := fun term among =>
  isIdentifier_of_mem accepted term.identifier (List.mem_map_of_mem among)

end ReqlLua.Catalog
