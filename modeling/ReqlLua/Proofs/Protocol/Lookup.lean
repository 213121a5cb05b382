import ReqlLua.Proofs.Protocol.Acceptance

/-! Looking terms up. Halving the catalog finds what walking through it finds, which is what the enumeration
holds under the name, unless the name is reserved. -/

namespace ReqlLua.Catalog

/-! ### Halving -/

/-- What is found is a term with the identifier, whatever the order of the terms. -/
theorem bisect_sound {terms : Array Term} {identifier : String} {low high : Nat}
    {bound : high ≤ terms.size} {term : Term}
    (found : bisect terms identifier low high bound = some term) :
    term ∈ terms ∧ term.identifier = identifier := by
  fun_induction bisect terms identifier low high bound with
  | case1 low high bound nonempty middle inside met equal =>
    have same : met = term := Option.some.inj found
    rw [← same]
    exact ⟨Array.getElem_mem _, Std.LawfulEqOrd.eq_of_compare equal⟩
  | case2 low high bound nonempty middle inside met less ih => exact ih found
  | case3 low high bound nonempty middle inside met greater ih => exact ih found
  | case4 => cases found

/-- Identifiers increase from place to place. -/
def Increasing (terms : Array Term) : Prop :=
  ∀ first second, (inside : second < terms.size) → (before : first < second) →
    terms[first].identifier < terms[second].identifier

theorem Increasing.le {terms : Array Term} (increasing : Increasing terms) {first second : Nat}
    (inside : second < terms.size) (before : first ≤ second) :
    terms[first].identifier ≤ terms[second].identifier := by
  rcases Nat.lt_or_eq_of_le before with before | rfl
  · exact (increasing first second inside before).le
  · exact le_rfl

/-- A term between the bounds is found, for it never stands in the half that is given up. -/
theorem bisect_complete {terms : Array Term} (increasing : Increasing terms) {identifier : String}
    {low high : Nat} {bound : high ≤ terms.size} {place : Nat} (below : low ≤ place)
    (above : place < high) (sought : terms[place].identifier = identifier) :
    bisect terms identifier low high bound = some terms[place] := by
  fun_induction bisect terms identifier low high bound with
  | case1 low high bound nonempty middle inside met equal =>
    have same : met.identifier = terms[place].identifier :=
      (Std.LawfulEqOrd.eq_of_compare equal).trans sought.symm
    rcases Nat.lt_trichotomy middle place with before | here | behind
    · exact absurd same (increasing middle place (by omega) before).ne
    · simp only [met, here]
    · exact absurd same (increasing place middle (by omega) behind).ne'
  | case2 low high bound nonempty middle inside met less ih =>
    have smaller : met.identifier < terms[place].identifier :=
      sought ▸ compareOfLessAndEq_eq_lt.1 less
    have behind : middle < place := Nat.lt_of_not_le fun before =>
      not_lt_of_ge (increasing.le (by omega) before) smaller
    exact ih behind above sought
  | case3 low high bound nonempty middle inside met greater ih =>
    have less : compare identifier met.identifier = .lt := Std.OrientedCmp.gt_iff_lt.1 greater
    have larger : terms[place].identifier < met.identifier :=
      sought ▸ compareOfLessAndEq_eq_lt.1 less
    have before : place < middle := Nat.lt_of_not_le fun behind =>
      not_lt_of_ge (increasing.le (by omega) behind) larger
    exact ih below before sought
  | case4 => omega

/-! ### Catalogs -/

section

variable {enumeration : Enumeration} {catalog : Catalog} {name : String} {term : Term}

theorem Lists.get?_eq_some_iff (lists : catalog.Lists enumeration) :
    catalog.get? name = some term ↔ term ∈ catalog.terms ∧ term.identifier = name := by
  constructor
  · intro found
    simpa using bisect_sound found
  · rintro ⟨member, sought⟩
    obtain ⟨place, inside, rfl⟩ := List.getElem_of_mem member
    have increasing : Increasing catalog.terms.toArray := by
      intro first second inside before
      exact List.pairwise_iff_getElem.1 lists.increasing first second _ inside before
    exact bisect_complete increasing (Nat.zero_le place) inside sought

theorem Lists.eq_of_identifier (lists : catalog.Lists enumeration) {other : Term}
    (member : term ∈ catalog.terms) (member' : other ∈ catalog.terms)
    (same : term.identifier = other.identifier) : term = other := by
  have held := ((lists.mem_iff term).1 member).1
  have held' := ((lists.mem_iff other).1 member').1
  rw [same, held'] at held
  cases term
  cases other
  cases same
  cases held
  rfl

/-- Walking through the terms finds the same. -/
theorem Lists.find?_eq_some_iff (lists : catalog.Lists enumeration) :
    (catalog.terms.find? fun term => term.identifier == name) = some term ↔
      term ∈ catalog.terms ∧ term.identifier = name := by
  constructor
  · intro found
    exact ⟨List.mem_of_find?_eq_some found, by simpa using List.find?_some found⟩
  · rintro ⟨member, sought⟩
    cases found : catalog.terms.find? fun term => term.identifier == name with
    | none => simpa [sought] using List.find?_eq_none.1 found term member
    | some first =>
      have met : first.identifier = name := by simpa using List.find?_some found
      rw [lists.eq_of_identifier (List.mem_of_find?_eq_some found) member (met.trans sought.symm)]

end

/-- In the catalog of an enumeration a search finds the tag that the enumeration holds, and nothing under a
reserved name. -/
theorem get?_agrees {enumeration : Enumeration} {catalog : Catalog}
    (accepted : ofEnumeration enumeration = .ok catalog) (name : String) :
    (catalog.get? name =
        if name ∈ reserved then none else (enumeration.get? name).map fun tag => ⟨name, tag⟩) ∧
      catalog.get? name = catalog.terms.find? (fun term => term.identifier == name) ∧
      (name ∉ reserved → (catalog.get? name).map (·.tag) = enumeration.get? name) := by
  have lists := lists_of_ofEnumeration accepted
  have held : catalog.get? name =
      if name ∈ reserved then none else (enumeration.get? name).map fun tag => ⟨name, tag⟩ := by
    ext term
    rw [lists.get?_eq_some_iff, lists.mem_iff]
    split
    · next kept =>
      refine iff_of_false ?_ (by simp)
      rintro ⟨⟨-, free⟩, rfl⟩
      exact free kept
    · next free =>
      rw [Option.map_eq_some_iff]
      constructor
      · rintro ⟨⟨found, -⟩, rfl⟩
        exact ⟨term.tag, found, rfl⟩
      · rintro ⟨tag, found, rfl⟩
        exact ⟨⟨found, free⟩, rfl⟩
  refine ⟨held, ?_, fun free => ?_⟩
  · ext term
    rw [lists.get?_eq_some_iff, lists.find?_eq_some_iff]
  · simp [held, free, Function.comp_def]

/-- A term between others, a reserved one, and names that no entry has. -/
theorem get?_agrees_fiveEntries :
    let terms : Enumeration :=
      .ofList [("TABLE", 15), ("DATUM", 1), ("DB", -14), ("ADD", 24), ("ISO8601", 99)]
    let catalog : Catalog := ⟨[⟨"ADD", 24⟩, ⟨"DB", -14⟩, ⟨"ISO8601", 99⟩, ⟨"TABLE", 15⟩]⟩
    ofEnumeration terms = .ok catalog ∧ catalog.get? "DB" = some ⟨"DB", -14⟩ ∧
      catalog.get? "DATUM" = none ∧ catalog.get? "db" = none ∧ catalog.get? "" = none := by
  intro terms catalog
  have accepted : ofEnumeration terms = .ok catalog := by rfl
  refine ⟨accepted, ?_, ?_, ?_, ?_⟩
  · exact (get?_agrees accepted "DB").1.trans (by decide)
  · exact (get?_agrees accepted "DATUM").1.trans (by decide)
  · exact (get?_agrees accepted "db").1.trans (by decide)
  · exact (get?_agrees accepted "").1.trans (by decide)

end ReqlLua.Catalog
