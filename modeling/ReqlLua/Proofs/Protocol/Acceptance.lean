import Mathlib.Data.List.Nodup
import Mathlib.Data.String.Basic
import Mathlib.Order.Bounds.Defs
import Mathlib.Tactic.Tauto
import ReqlLua.Proofs.Protocol.Catalog

/-! Which enumerations make a catalog, and which name is to blame where one does not. The names are looked
at in their order, so the blame falls on the least name that is out of place. -/

namespace ReqlLua.Catalog

/-! ### Identifiers -/

def IsCapital (c : Char) : Prop := 'A' ≤ c ∧ c ≤ 'Z'

def IsNumeral (c : Char) : Prop := '0' ≤ c ∧ c ≤ '9'

/-- A capital letter or an underscore, then any number of capital letters, numerals and underscores. -/
def IsTermName (name : String) : Prop :=
  ∃ first rest, name.toList = first :: rest ∧ (IsCapital first ∨ first = '_') ∧
    ∀ c ∈ rest, IsCapital c ∨ IsNumeral c ∨ c = '_'

theorem isUpper_iff {c : Char} : c.isUpper = true ↔ IsCapital c := by
  change decide ('A' ≤ c ∧ c ≤ 'Z') = true ↔ _
  exact decide_eq_true_iff

theorem isDigit_iff {c : Char} : c.isDigit = true ↔ IsNumeral c := by
  change (decide ('0' ≤ c) && decide (c ≤ '9')) = true ↔ _
  rw [Bool.and_eq_true, decide_eq_true_iff, decide_eq_true_iff]
  exact Iff.rfl

theorem isIdentifier_iff {name : String} : isIdentifier name = true ↔ IsTermName name := by
  unfold isIdentifier IsTermName
  cases name.toList with
  | nil => simp
  | cons first rest =>
    simp only [isInitial, isFollowing, Bool.and_eq_true, Bool.or_eq_true, List.all_eq_true, isUpper_iff,
      isDigit_iff, beq_iff_eq, or_assoc]
    constructor
    · exact fun wellFormed => ⟨first, rest, rfl, wellFormed⟩
    · rintro ⟨_, _, ⟨⟩, wellFormed⟩
      exact wellFormed

/-! ### Checking in order -/

/-- The tags of entries that have been passed, the last one first. -/
def passed (entries : List (String × Int64)) : List (Int64 × String) := (entries.map Prod.swap).reverse

theorem mem_passed {entries : List (String × Int64)} {tag : Int64} {name : String} :
    (tag, name) ∈ passed entries ↔ (name, tag) ∈ entries := by
  rw [passed, List.mem_reverse]
  exact List.mem_map_of_injective (a := (name, tag)) Prod.swap_injective

theorem check_single (seen : List (Int64 × String)) (name : String) (tag : Int64) :
    check seen [(name, tag)] =
      if isIdentifier name then
        match seen.lookup tag with
        | some first => .error (.sharedTag tag first name)
        | none => .ok ()
      else .error (.badIdentifier name) := by
  rw [check]
  rfl

/-- Behind `seen` the first entry is checked by itself, and the others behind it. -/
theorem check_cons (seen : List (Int64 × String)) (entry : String × Int64)
    (rest : List (String × Int64)) :
    check seen (entry :: rest) = (check seen [entry]).bind fun _ => check (entry.swap :: seen) rest := by
  obtain ⟨name, tag⟩ := entry
  rw [check, check_single]
  split
  · cases seen.lookup tag <;> rfl
  · rfl

theorem check_cons_ok {seen : List (Int64 × String)} {entry : String × Int64}
    {rest : List (String × Int64)} :
    check seen (entry :: rest) = .ok () ↔
      check seen [entry] = .ok () ∧ check (entry.swap :: seen) rest = .ok () := by
  rw [check_cons]
  cases check seen [entry] <;> simp [Except.bind]

theorem check_single_ok {seen : List (Int64 × String)} {name : String} {tag : Int64} :
    check seen [(name, tag)] = .ok () ↔ isIdentifier name = true ∧ tag ∉ seen.map (·.1) := by
  rw [check_single]
  split
  · next identifier =>
    have fresh : seen.lookup tag = none ↔ tag ∉ seen.map (·.1) := by
      rw [List.lookup_eq_none_iff, List.mem_map]
      grind
    rw [← fresh]
    cases seen.lookup tag <;> simp [identifier]
  · next other => simp [other]

/-- What is wrong with an entry that does not pass: its name, or else its tag. -/
theorem check_single_error {seen : List (Int64 × String)} {name : String} {tag : Int64}
    {fault : CatalogFault} (refused : check seen [(name, tag)] = .error fault) :
    isIdentifier name = false ∧ fault = .badIdentifier name ∨
      isIdentifier name = true ∧ ∃ first, (tag, first) ∈ seen ∧ fault = .sharedTag tag first name := by
  rw [check_single] at refused
  split at refused
  · next identifier =>
    cases found : seen.lookup tag with
    | none =>
      rw [found] at refused
      cases refused
    | some first =>
      rw [found] at refused
      cases refused
      obtain ⟨front, back, rfl, -⟩ := List.lookup_eq_some_iff.1 found
      exact .inr ⟨identifier, first, by simp, rfl⟩
  · next other =>
    cases refused
    exact .inl ⟨eq_false_of_ne_true other, rfl⟩

/-- All entries pass if their names are identifiers and their tags are distinct and new. -/
theorem check_ok_iff {seen : List (Int64 × String)} {entries : List (String × Int64)} :
    check seen entries = .ok () ↔
      (∀ entry ∈ entries, isIdentifier entry.1 = true) ∧ (entries.map (·.2)).Nodup ∧
        ∀ entry ∈ entries, entry.2 ∉ seen.map (·.1) := by
  induction entries generalizing seen with
  | nil => simp [check]
  | cons entry rest ih =>
    have apart : (∀ other ∈ rest, other.2 ∉ (entry.swap :: seen).map (·.1)) ↔
        entry.2 ∉ rest.map (·.2) ∧ ∀ other ∈ rest, other.2 ∉ seen.map (·.1) := by
      simp only [List.map_cons, Prod.fst_swap, List.mem_cons, List.mem_map]
      grind
    rw [check_cons_ok, check_single_ok, ih, apart, List.map_cons, List.nodup_cons, List.forall_mem_cons,
      List.forall_mem_cons]
    tauto

/-- A list that is refused is refused for one entry, behind others that pass. -/
theorem refused_entry {seen : List (Int64 × String)} {entries : List (String × Int64)}
    {fault : CatalogFault} (refused : check seen entries = .error fault) :
    ∃ before name tag after, entries = before ++ (name, tag) :: after ∧ check seen before = .ok () ∧
      check (passed before ++ seen) [(name, tag)] = .error fault := by
  induction entries generalizing seen with
  | nil => cases refused
  | cons entry rest ih =>
    rw [check_cons] at refused
    cases alone : check seen [entry] with
    | error first =>
      rw [alone] at refused
      cases refused
      exact ⟨[], entry.1, entry.2, rest, rfl, rfl, alone⟩
    | ok =>
      rw [alone] at refused
      obtain ⟨before, name, tag, after, rfl, passes, here⟩ := ih refused
      refine ⟨entry :: before, name, tag, after, rfl, check_cons_ok.2 ⟨alone, passes⟩, ?_⟩
      simpa [passed] using here

/-! ### Enumerations -/

/-- All names are term names, and no two have one tag. The reserved ones count. -/
structure Acceptable (enumeration : Enumeration) : Prop where
  names : ∀ name ∈ enumeration.keys, IsTermName name
  tags : (enumeration.entries.map (·.2)).Nodup

/-- The terms are the entries that are not reserved, in increasing order and with distinct tags. -/
structure Lists (catalog : Catalog) (enumeration : Enumeration) : Prop where
  mem_iff : ∀ term, term ∈ catalog.terms ↔
    enumeration.get? term.identifier = some term.tag ∧ term.identifier ∉ reserved
  increasing : catalog.terms.Pairwise fun first second => first.identifier < second.identifier
  tags : (catalog.terms.map (·.tag)).Nodup

/-- The name is no term name or has the tag of a smaller name. -/
def Offends (enumeration : Enumeration) (name : String) : Prop :=
  ∃ tag, enumeration.get? name = some tag ∧
    (¬IsTermName name ∨ ∃ smaller < name, enumeration.get? smaller = some tag)

/-- What is said about an offending name: that it is no term name, or else which tag it has and the one
smaller name that has this tag. -/
inductive Blames (enumeration : Enumeration) (name : String) : CatalogFault → Prop
  | badIdentifier (bad : ¬IsTermName name) : Blames enumeration name (.badIdentifier name)
  | sharedTag {tag : Int64} {first : String} (wellFormed : IsTermName name)
      (held : enumeration.get? name = some tag)
      (shared : ∀ other, other < name ∧ enumeration.get? other = some tag ↔ other = first) :
      Blames enumeration name (.sharedTag tag first name)

variable {enumeration : Enumeration}

theorem check_entries_ok_iff : check [] enumeration.entries = .ok () ↔ Acceptable enumeration := by
  have names : (∀ entry ∈ enumeration.entries, isIdentifier entry.1 = true) ↔
      ∀ name ∈ enumeration.keys, IsTermName name := by
    simp only [Dictionary.keys, List.forall_mem_map, isIdentifier_iff]
  rw [check_ok_iff, names]
  constructor
  · exact fun ⟨names, tags, _⟩ => ⟨names, tags⟩
  · exact fun acceptable => ⟨acceptable.names, acceptable.tags, by simp⟩

theorem sorted_entries (enumeration : Enumeration) :
    enumeration.entries.Pairwise fun first second => first.1 < second.1 :=
  enumeration.sorted.imp compareOfLessAndEq_eq_lt.1

theorem lists_of_ofEnumeration {catalog : Catalog}
    (accepted : ofEnumeration enumeration = .ok catalog) : catalog.Lists enumeration := by
  obtain ⟨checked, terms⟩ := terms_of_ofEnumeration accepted
  have acceptable := check_entries_ok_iff.1 checked
  refine ⟨fun term => ?_, ?_, ?_⟩
  · rw [terms, ← Dictionary.mem_entries_iff, List.mem_map]
    constructor
    · rintro ⟨entry, kept, rfl⟩
      simpa using List.mem_filter.1 kept
    · rintro ⟨member, free⟩
      exact ⟨(term.identifier, term.tag), List.mem_filter.2 ⟨member, by simpa using free⟩, rfl⟩
  · rw [terms]
    exact ((sorted_entries enumeration).filter _).map _ fun _ _ less => less
  · rw [terms, List.map_map]
    exact acceptable.tags.sublist (List.filter_sublist.map _)

section

variable {before after : List (String × Int64)} {name : String} {tag : Int64}

/-- What stands before an entry are the entries with smaller names. -/
theorem mem_before_iff (split : enumeration.entries = before ++ (name, tag) :: after)
    {other : String} {held : Int64} :
    (other, held) ∈ before ↔ other < name ∧ enumeration.get? other = some held := by
  have sorted := sorted_entries enumeration
  rw [split, List.pairwise_append, List.pairwise_cons] at sorted
  obtain ⟨-, ⟨greater, -⟩, less⟩ := sorted
  rw [← Dictionary.mem_entries_iff, split, List.mem_append]
  constructor
  · exact fun member => ⟨less _ member _ List.mem_cons_self, .inl member⟩
  · rintro ⟨smaller, member | member⟩
    · exact member
    rcases List.mem_cons.1 member with same | member
    · cases same
      exact absurd smaller (lt_irrefl name)
    · exact absurd (smaller.trans (greater _ member)) (lt_irrefl other)

/-- No name offends that is smaller than those that have not passed yet. -/
theorem not_offends_of_lt (split : enumeration.entries = before ++ (name, tag) :: after)
    (passes : check [] before = .ok ()) {other : String} (smaller : other < name) :
    ¬Offends enumeration other := by
  obtain ⟨identifiers, distinct, -⟩ := check_ok_iff.1 passes
  rintro ⟨held, here, bad⟩
  have member := (mem_before_iff split).2 ⟨smaller, here⟩
  rcases bad with bad | ⟨least, less, shared⟩
  · exact bad (isIdentifier_iff.1 (identifiers _ member))
  · have member' := (mem_before_iff split).2 ⟨less.trans smaller, shared⟩
    have same := List.inj_on_of_nodup_map distinct member member' rfl
    cases same
    exact lt_irrefl _ less

/-- The entry that does not pass offends, and the fault tells why. -/
theorem blames_of_refused (split : enumeration.entries = before ++ (name, tag) :: after)
    (passes : check [] before = .ok ()) {fault : CatalogFault}
    (refused : check (passed before) [(name, tag)] = .error fault) :
    Offends enumeration name ∧ Blames enumeration name fault := by
  have held : enumeration.get? name = some tag := by
    rw [← Dictionary.mem_entries_iff, split]
    simp
  rcases check_single_error refused with ⟨bad, rfl⟩ | ⟨identifier, first, seen, rfl⟩
  · have bad' : ¬IsTermName name := by rw [← isIdentifier_iff, bad]; simp
    exact ⟨⟨tag, held, .inl bad'⟩, .badIdentifier bad'⟩
  · have member := mem_passed.1 seen
    obtain ⟨less, shared⟩ := (mem_before_iff split).1 member
    refine ⟨⟨tag, held, .inr ⟨first, less, shared⟩⟩,
      .sharedTag (isIdentifier_iff.1 identifier) held fun other => ?_⟩
    rw [← mem_before_iff split]
    constructor
    · intro member'
      have same := List.inj_on_of_nodup_map (check_ok_iff.1 passes).2.1 member' member rfl
      exact congrArg Prod.fst same
    · rintro rfl
      exact member

end

/-- An enumeration makes a catalog exactly if it is acceptable, and the catalog then lists what is not
reserved. Otherwise the fault is that of the least offending name. -/
theorem ofEnumeration_exact (enumeration : Enumeration) :
    ((∃ catalog, ofEnumeration enumeration = .ok catalog) ↔ Acceptable enumeration) ∧
      (∀ catalog, ofEnumeration enumeration = .ok catalog → catalog.Lists enumeration) ∧
      (¬Acceptable enumeration → ∃ name fault, IsLeast {name | Offends enumeration name} name ∧
        Blames enumeration name fault ∧ ofEnumeration enumeration = .error fault) := by
  refine ⟨⟨?_, ?_⟩, fun catalog => lists_of_ofEnumeration, ?_⟩
  · rintro ⟨catalog, accepted⟩
    exact check_entries_ok_iff.1 (terms_of_ofEnumeration accepted).1
  · intro acceptable
    rw [ofEnumeration, check_entries_ok_iff.2 acceptable]
    exact ⟨_, rfl⟩
  · intro bad
    cases checked : check [] enumeration.entries with
    | ok => exact absurd (check_entries_ok_iff.1 checked) bad
    | error fault =>
      obtain ⟨before, name, tag, after, split, passes, refused⟩ := refused_entry checked
      rw [List.append_nil] at refused
      obtain ⟨offends, blames⟩ := blames_of_refused split passes refused
      refine ⟨name, fault, ⟨offends, fun other bad' => ?_⟩, blames, ?_⟩
      · exact le_of_not_gt fun smaller => not_offends_of_lt split passes smaller bad'
      · rw [ofEnumeration, checked]
        rfl

/-- Two names with one tag come before the one that is no term name. -/
example : ofEnumeration (.ofList [("db", 3), ("TABLE", 14), ("DB", 14), ("ADD", 1)]) =
    .error (.sharedTag 14 "DB" "TABLE") := by
  rfl

end ReqlLua.Catalog
