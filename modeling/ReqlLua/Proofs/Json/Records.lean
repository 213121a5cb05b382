import Mathlib.Data.List.Perm.Basic
import ReqlLua.Proofs.Json.Passing

/-! Texts of records. A record is read from an object with its fields in any order, among members of any other
names and values, and from a list of its fields in their own order. -/

namespace ReqlLua.Json

variable {α : Type}

/-! ### Lists -/

/-- The inside of a list from the first element on or from behind an element. The elements stand for named
values. -/
inductive Elements (Value : String → α → List Char → Prop) :
    Bool → List (String × α) → List Char → Prop where
  | done {isFirst : Bool} {space : List Char} (blank : Blank space) : Elements Value isFirst [] space
  | element {isFirst : Bool} {lead text others : List Char} {c : Char} {name : String} {value : α}
      {entries : List (String × α)} (leads : Lead isFirst lead) (goesOn : endsValue c = false)
      (written : Value name value (c :: text)) (later : Elements Value false entries others) :
      Elements Value isFirst ((name, value) :: entries) (lead ++ c :: (text ++ others))

/-- What stands behind an element ends its value. -/
theorem Elements.ends {Value : String → α → List Char → Prop} {entries : List (String × α)}
    {text : List Char} (elements : Elements Value false entries text) (rest : List Char) :
    Ends (text ++ ']' :: rest) := by
  cases elements with
  | done blank => exact ends_blank blank (by decide) rest
  | element leads =>
    rw [List.append_assoc]
    exact leads.ends _

theorem closeList_blank {space : List Char} (blank : Blank space) (rest : List Char) :
    closeList (space ++ ']' :: rest) = .ok rest := by
  rw [closeList, skipSpace_blank blank (by decide)]
  rfl

namespace RecordShape

theorem readElement_takes {reader : Reader α} {isFirst : Bool} {lead : List Char}
    (leads : Lead isFirst lead) {c : Char} (goesOn : endsValue c = false) {text rest : List Char}
    {value : α} (taken : Takes reader (c :: text) value rest) :
    ∃ shorter, readElement isFirst reader (lead ++ c :: text) = .ok (.ok ⟨value, rest, shorter⟩) := by
  obtain ⟨shorter, read⟩ := taken
  have notCloser : c ≠ ']' := (endsValue_ne (by decide) goesOn).symm
  have notSpace := isSpace_of_endsValue goesOn
  have short : rest.length < (lead ++ c :: text).length := by
    rw [List.length_append]
    omega
  refine ⟨short, ?_⟩
  cases leads with
  | first blank =>
    have skipped := skipSpace_blank blank notSpace text
    unfold readElement
    split
    · next empty _ =>
      rw [skipped] at empty
      cases empty
    · next same _ =>
      rw [skipped] at same
      cases same
      simp only [notCloser, if_false, if_true, read]
      rfl
  | @next before behind blank blank' =>
    have skipped : skipSpace (before ++ ',' :: behind ++ c :: text) = ',' :: (behind ++ c :: text) := by
      rw [List.append_assoc, List.cons_append, skipSpace_blank blank (by decide)]
    have skipped' := skipSpace_blank blank' notSpace text
    unfold readElement
    split
    · next empty _ =>
      rw [skipped] at empty
      cases empty
    · next same _ =>
      rw [skipped] at same
      cases same
      simp only [Char.reduceEq, if_false, if_true, Bool.false_eq_true]
      split
      · next empty _ =>
        rw [skipped'] at empty
        cases empty
      · next same _ =>
        rw [skipped'] at same
        cases same
        exact absurd rfl notCloser
      · next less _ _ =>
        -- The bound speaks of the text that is left, so it is rewritten along with it.
        revert less
        rw [skipped']
        intro less _ _
        simp only [read]
        rfl

theorem readElements_cons {name : String} {total limit index : Nat} {field : String}
    {reader : Reader α} {fields : List (String × Reader α)} {text rest after : List Char}
    {bound : text.length < limit} {value : α} {shorter : rest.length < text.length}
    {values : List α} {same : values.length = fields.length} {less : after.length < limit}
    (first : readElement (index = 0) reader text = .ok (.ok ⟨value, rest, shorter⟩))
    (others : readElements name total limit (index + 1) fields rest (Nat.lt_trans shorter bound) =
      .ok ⟨⟨values, same⟩, after, less⟩) :
    readElements name total limit index ((field, reader) :: fields) text bound =
      .ok ⟨⟨value :: values, congrArg (· + 1) same⟩, after, less⟩ := by
  -- The recursion is on the fields, so that one step of it is a computation.
  conv_lhs => whnf
  rw [first]
  simp only [others]

/-- The elements of a list are read one for each field. -/
theorem readElements_elements {Value : String → α → List Char → Prop} (name : String)
    (total limit : Nat) {isFirst : Bool} {entries : List (String × α)} {text : List Char}
    (elements : Elements Value isFirst entries text) {index : Nat} (start : decide (index = 0) = isFirst)
    {fields : List (String × Reader α)} (names : fields.map (·.1) = entries.map (·.1))
    (reads : ∀ field ∈ fields, Reads field.2 (Value field.1)) (rest : List Char)
    (bound : (text ++ ']' :: rest).length < limit) :
    ∃ space same shorter, Blank space ∧
      readElements name total limit index fields (text ++ ']' :: rest) bound =
        .ok ⟨⟨entries.map (·.2), same⟩, space ++ ']' :: rest, shorter⟩ := by
  induction elements generalizing index fields with
  | @done isFirst space blank =>
    cases fields with
    | nil => exact ⟨space, rfl, bound, blank, rfl⟩
    | cons field fields => cases names
  | @element isFirst lead text others c fieldName value entries leads goesOn written later ih =>
    cases fields with
    | nil => cases names
    | cons field fields =>
      obtain ⟨same, names'⟩ := List.cons_eq_cons.1 names
      obtain ⟨_, reader⟩ := field
      cases same
      have taken : Takes reader (c :: (text ++ (others ++ ']' :: rest))) value (others ++ ']' :: rest) :=
        reads _ List.mem_cons_self value _ written _ (later.ends rest)
      have reads' : ∀ field ∈ fields, Reads field.2 (Value field.1) := fun field member =>
        reads field (List.mem_cons_of_mem _ member)
      obtain ⟨shorter, element⟩ := readElement_takes leads goesOn taken
      simp only [List.append_assoc, List.cons_append] at bound ⊢
      have bound' : (others ++ ']' :: rest).length < limit := by
        simp only [List.length_append, List.length_cons] at bound ⊢
        omega
      have start' : decide (index + 1 = 0) = false := rfl
      obtain ⟨space, length, less, blank, done⟩ := ih start' names' reads' bound'
      rw [← start] at element
      exact ⟨space, congrArg (· + 1) length, less, blank, readElements_cons element done⟩

theorem read_list (shape : RecordShape α) {space : List Char} (blank : Blank space)
    (text : List Char) :
    ∃ bound, shape.read (space ++ '[' :: text) = (do
      let ⟨⟨values, same⟩, after, less⟩ ← finish closeList closeList_length_le
        (readElements shape.name shape.fields.length (space ++ '[' :: text).length 0 shape.fields
          text bound)
      return ⟨⟨values, by rw [same, names, List.length_map]⟩, after, less⟩) := by
  have skipped := skipSpace_blank blank (by decide : isSpace '[' = false) text
  refine ⟨by simp only [List.length_append, List.length_cons]; omega, ?_⟩
  unfold read
  split
  · next empty _ =>
    rw [skipped] at empty
    cases empty
  · next same _ =>
    rw [skipped] at same
    cases same
    rfl

end RecordShape

/-! ### Records -/

/-- The text of a member: a field with a text of its value, or any value under a name that is no field's.
Names are texts, so that their spellings stand for characters; the strings in a value need not. -/
def FieldText (names : List String) (Value : String → α → List Char → Prop) :
    String → Option α → List Char → Prop
  | name, some value, text => name ∈ names ∧ Value name value text
  | name, none, text => name ∉ names ∧ ValueText text

/-- The text of a record with these fields, an object or a list. -/
inductive RecordText (Value : String → α → List Char → Prop) (fields : List (String × α)) :
    List Char → Prop where
  | object {space inside : List Char} {entries : List (String × Option α)} (blank : Blank space)
      (members : Members (FieldText (fields.map (·.1)) Value) true entries inside)
      (order : (counted entries).Perm fields) :
      RecordText Value fields (space ++ '{' :: (inside ++ ['}']))
  | list {space inside : List Char} (blank : Blank space)
      (elements : Elements Value true fields inside) :
      RecordText Value fields (space ++ '[' :: (inside ++ [']']))

theorem gather_fields {found fields : List (String × α)}
    (listed : ∀ field ∈ fields, found.lookup field.1 = some field.2) {names : List String}
    (named : names = fields.map (·.1)) :
    ∃ same, gather found names = .ok ⟨fields.map (·.2), same⟩ := by
  subst named
  induction fields with
  | nil => exact ⟨rfl, rfl⟩
  | cons field fields ih =>
    obtain ⟨same, others⟩ := ih fun other member => listed other (List.mem_cons_of_mem _ member)
    exact ⟨congrArg (· + 1) same, gather_cons (listed field List.mem_cons_self) others⟩

namespace RecordShape

theorem lookup_fields (shape : RecordShape α) {name : String} (member : name ∈ shape.names) :
    ∃ reader, shape.fields.lookup name = some reader ∧ (name, reader) ∈ shape.fields := by
  cases found : shape.fields.lookup name with
  | none =>
    obtain ⟨field, listed, same⟩ := List.mem_map.1 member
    have differ := List.lookup_eq_none_iff.1 found field listed
    rw [same, bne_self_eq_false] at differ
    exact Bool.noConfusion differ
  | some reader =>
    obtain ⟨before, behind, same, -⟩ := List.lookup_eq_some_iff.1 found
    exact ⟨reader, rfl, same ▸ List.mem_append_right _ List.mem_cons_self⟩

theorem lookup_none (shape : RecordShape α) {name : String} (distant : name ∉ shape.names) :
    shape.fields.lookup name = none := by
  rw [List.lookup_eq_none_iff]
  intro field member
  rw [bne_iff_ne]
  exact fun same => distant (List.mem_map.2 ⟨field, member, same.symm⟩)

variable {shape : RecordShape α} {Value : String → α → List Char → Prop}
  {fields : List (String × α)}

/-- An object is read from the members that count. -/
theorem read_members {entries : List (String × Option α)} {inside space : List Char}
    (names : shape.names = fields.map (·.1)) (distinct : shape.names.Nodup)
    (reads : ∀ field ∈ shape.fields, Reads field.2 (Value field.1))
    (members : Members (FieldText (fields.map (·.1)) Value) true entries inside)
    (order : (counted entries).Perm fields) (blank : Blank space) (rest : List Char) :
    ∃ same, Takes shape.read (space ++ '{' :: (inside ++ '}' :: rest)) ⟨fields.map (·.2), same⟩
      rest := by
  have known : ∀ name value text, FieldText (fields.map (·.1)) Value name (some value) text →
      ∃ reader, shape.fields.lookup name = some reader ∧
        ∀ rest, Ends rest → Takes reader (text ++ rest) value rest := by
    rintro name value text ⟨member, written⟩
    obtain ⟨reader, found, listed⟩ := shape.lookup_fields (names ▸ member)
    exact ⟨reader, found, reads _ listed value text written⟩
  have additional : ∀ name text, FieldText (fields.map (·.1)) Value name none text →
      shape.fields.lookup name = none ∧
        ∀ rest, Ends rest → Takes skipValue (text ++ rest) () rest := by
    rintro name text ⟨distant, written⟩
    exact ⟨shape.lookup_none (names ▸ distant), fun rest ends => skipValue_takes written ends⟩
  have apart : ∀ {found : List (String × α)}, found.Perm fields → (found.map (·.1)).Nodup :=
    fun order => (order.map _).nodup_iff.2 (names ▸ distinct)
  have order' := (counted entries).reverse_perm.trans order
  have listed : ∀ field ∈ fields,
      ((counted entries).reverse ++ []).lookup field.1 = some field.2 := by
    intro field member
    rw [List.append_nil]
    exact lookup_of_mem (apart order') (order'.mem_iff.2 member)
  obtain ⟨bound, object⟩ := shape.read_object blank (inside ++ '}' :: rest)
  obtain ⟨same, gathered⟩ := gather_fields listed names
  obtain ⟨shorter, read⟩ := readMembers_members known additional members (fun _ _ => rfl)
    (apart order) gathered _ rest bound
  obtain ⟨shorter', closed⟩ := finish_close shorter
  refine ⟨same, shorter', ?_⟩
  rw [object, read, closed]

theorem read_elements {inside space : List Char} (names : shape.names = fields.map (·.1))
    (reads : ∀ field ∈ shape.fields, Reads field.2 (Value field.1))
    (elements : Elements Value true fields inside) (blank : Blank space) (rest : List Char) :
    ∃ same, Takes shape.read (space ++ '[' :: (inside ++ ']' :: rest)) ⟨fields.map (·.2), same⟩
      rest := by
  obtain ⟨bound, list⟩ := shape.read_list blank (inside ++ ']' :: rest)
  obtain ⟨behind, same, shorter, blank', read⟩ := readElements_elements shape.name
    shape.fields.length _ elements (by decide : decide (0 = 0) = true) names reads rest bound
  obtain ⟨shorter', closed⟩ := finish_ok closeList_length_le shorter (closeList_blank blank' rest)
  refine ⟨by rw [same, RecordShape.names, List.length_map], shorter', ?_⟩
  rw [list, read, closed]
  rfl

/-- The fields of a record are read from any of its texts. -/
theorem read_record (names : shape.names = fields.map (·.1)) (distinct : shape.names.Nodup)
    (reads : ∀ field ∈ shape.fields, Reads field.2 (Value field.1)) {text : List Char}
    (written : RecordText Value fields text) (rest : List Char) :
    ∃ same, Takes shape.read (text ++ rest) ⟨fields.map (·.2), same⟩ rest := by
  cases written with
  | object blank members order =>
    simp only [List.append_assoc, List.cons_append, List.nil_append]
    exact read_members names distinct reads members order blank rest
  | list blank elements =>
    simp only [List.append_assoc, List.cons_append, List.nil_append]
    exact read_elements names reads elements blank rest

end RecordShape

end ReqlLua.Json
