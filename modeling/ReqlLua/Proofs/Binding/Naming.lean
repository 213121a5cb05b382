import ReqlLua.Binding.Basic
import ReqlLua.Proofs.Protocol.Catalog
import ReqlLua.Proofs.Text.Lowercase

/-! The names that the terms of a catalog receive, and the bindings around them. -/

namespace ReqlLua

open Lua

namespace MethodNames

def isInitial (c : Char) : Bool := c.isLower || c == '_'
def isFollowing (c : Char) : Bool := c.isLower || c.isDigit || c == '_'

/-- Small letters, digits and underscores, no digit first. -/
def isMethodName (name : String) : Bool :=
  match name.toList with
  | [] => false
  | first :: rest => isInitial first && rest.all isFollowing

theorem isWordChar_of_isFollowing {c : Char} (following : isFollowing c = true) :
    isWordChar c = true := by
  rw [isFollowing, Bool.or_eq_true, Bool.or_eq_true, beq_iff_eq] at following
  apply isWordChar_iff.2
  rcases following with (small | digit) | underscore
  · exact .inr (.inl small)
  · exact .inr (.inr (.inl digit))
  · exact .inr (.inr (.inr underscore))

theorem isFollowing_of_isInitial {c : Char} (initial : isInitial c = true) :
    isFollowing c = true := by
  rw [isInitial, Bool.or_eq_true] at initial
  rw [isFollowing, Bool.or_eq_true, Bool.or_eq_true]
  exact initial.imp_left .inl

theorem isWord_of_isMethodName {name : String} (method : isMethodName name = true) :
    IsWord name := by
  rw [isMethodName] at method
  cases shape : name.toList with
  | nil => simp [shape] at method
  | cons first rest =>
    simp only [shape, Bool.and_eq_true, List.all_eq_true] at method
    obtain ⟨initial, following⟩ := method
    apply isWord_cons shape
    · exact isWordChar_of_isFollowing (isFollowing_of_isInitial initial)
    · exact fun c member => isWordChar_of_isFollowing (following c member)

theorem isInitial_toLower {c : Char} (initial : Catalog.isInitial c = true) :
    isInitial c.toLower = true := by
  rw [Catalog.isInitial, Bool.or_eq_true] at initial
  rcases initial with capital | underscore
  · rw [isInitial, Text.isLower_toLower capital, Bool.true_or]
  · rw [eq_of_beq underscore]
    decide

theorem isFollowing_toLower {c : Char} (following : Catalog.isFollowing c = true) :
    isFollowing c.toLower = true := by
  rw [Catalog.isFollowing, Bool.or_eq_true, Bool.or_eq_true] at following
  rcases following with (capital | digit) | underscore
  · rw [isFollowing, Text.isLower_toLower capital, Bool.true_or, Bool.true_or]
  · rw [isFollowing, Text.toLower_of_isDigit digit, digit, Bool.or_true, Bool.true_or]
  · rw [eq_of_beq underscore]
    decide

/-- The lower case of an identifier is a method name. -/
theorem isMethodName_lowercase {identifier : String}
    (wellFormed : Catalog.isIdentifier identifier = true) :
    isMethodName (Text.lowercase identifier) = true := by
  have word := Catalog.isWord_of_isIdentifier wellFormed
  have lower : (Text.lowercase identifier).toList = identifier.toList.map Char.toLower :=
    Text.lowercase_ascii fun c member => isWordChar_ascii (word c member)
  rw [isMethodName, lower]
  rw [Catalog.isIdentifier] at wellFormed
  cases shape : identifier.toList with
  | nil => simp [shape] at wellFormed
  | cons first rest =>
    simp only [shape, Bool.and_eq_true, List.all_eq_true] at wellFormed
    simp only [List.map_cons, Bool.and_eq_true, List.all_eq_true]
    refine ⟨isInitial_toLower wellFormed.1, ?_⟩
    intro c member
    obtain ⟨d, among, rfl⟩ := List.mem_map.1 member
    exact isFollowing_toLower (wellFormed.2 d among)

theorem isMethodName_nameOf {names : MethodNames}
    (overrides : ∀ entry ∈ names.entries, isMethodName entry.2 = true) {identifier : String}
    (wellFormed : Catalog.isIdentifier identifier = true) :
    isMethodName (names.nameOf identifier) = true := by
  rw [nameOf]
  cases found : names.get? identifier with
  | none => exact isMethodName_lowercase wellFormed
  | some name => exact overrides (identifier, name) (Dictionary.mem_of_get? found)

/-- Names that are given at all are given one by one. -/
theorem resolveFrom_ok {names : MethodNames} {owners : List (String × String)}
    {identifiers given : List String}
    (resolved : names.resolveFrom owners identifiers = .ok given) :
    given = identifiers.map names.nameOf := by
  induction identifiers generalizing owners given with
  | nil =>
    cases resolved
    rfl
  | cons identifier rest ih =>
    simp only [resolveFrom] at resolved
    split at resolved
    · cases resolved
    · split at resolved
      · cases resolved
      · cases others : names.resolveFrom ((names.nameOf identifier, identifier) :: owners) rest with
        | error fault =>
          rw [others] at resolved
          cases resolved
        | ok later =>
          rw [others] at resolved
          cases resolved
          rw [ih others, List.map_cons]

end MethodNames

/-- The binding of a term by itself. -/
def Tables.binding (tables : Tables) (term : Term) : Binding :=
  ⟨term, tables.names.nameOf term.identifier, tables.wrappers.wrapper term.identifier⟩

theorem Binding.ofCatalog_ok {tables : Tables} {catalog : Catalog} {bindings : List Binding}
    (named : Binding.ofCatalog tables catalog = .ok bindings) :
    bindings = catalog.terms.map tables.binding := by
  rw [Binding.ofCatalog] at named
  cases resolved : tables.names.resolve catalog with
  | error fault =>
    rw [resolved] at named
    cases named
  | ok given =>
    rw [resolved] at named
    cases named
    rw [MethodNames.resolveFrom_ok resolved, Catalog.identifiers, List.map_map]
    simp only [List.zipWith_map_right, List.zipWith_self]
    rfl

end ReqlLua
