import ReqlLua.Proofs.Json.Integer

/-! Texts of objects: members with commas between them and space anywhere. Objects are read member by
member, whatever the space and however the keys are spelled. -/

namespace ReqlLua.Json

variable {α : Type}

/-! ### Members -/

/-- What stands before a key: space, and a comma unless the key is the first. -/
inductive Lead : Bool → List Char → Prop where
  | first {space : List Char} (blank : Blank space) : Lead true space
  | next {before behind : List Char} (blank : Blank before) (blank' : Blank behind) :
      Lead false (before ++ ',' :: behind)

/-- The inside of an object from the first member on or from behind a member. -/
inductive Members (Value : String → α → List Char → Prop) :
    Bool → List (String × α) → List Char → Prop where
  | done {isFirst : Bool} {space : List Char} (blank : Blank space) : Members Value isFirst [] space
  | member {isFirst : Bool} {lead spelling gap text others : List Char} {name : String} {value : α}
      {entries : List (String × α)} (leads : Lead isFirst lead)
      (spelled : Spelled name.toList spelling) (blank : Blank gap) (written : Value name value text)
      (later : Members Value false entries others) :
      Members Value isFirst ((name, value) :: entries)
        (lead ++ '"' :: (spelling ++ '"' :: (gap ++ ':' :: (text ++ others))))

/-- Members whose texts are texts of other values too. -/
theorem Members.map {β : Type} {Value : String → α → List Char → Prop}
    {Value' : String → β → List Char → Prop} {isFirst : Bool} {entries : List (String × α)}
    {text : List Char} (members : Members Value isFirst entries text) {other : α → β}
    (taken : ∀ entry ∈ entries, ∀ text,
      Value entry.1 entry.2 text → Value' entry.1 (other entry.2) text) :
    Members Value' isFirst (entries.map fun entry => (entry.1, other entry.2)) text := by
  induction members with
  | done blank => exact .done blank
  | member leads spelled blank written later ih =>
    have later' := ih fun entry member => taken entry (List.mem_cons_of_mem _ member)
    exact .member leads spelled blank (taken _ List.mem_cons_self _ written) later'

theorem ends_blank {space : List Char} (blank : Blank space) {c : Char} (ends : endsValue c = true)
    (rest : List Char) : Ends (space ++ c :: rest) := by
  cases space with
  | nil =>
    intro d head
    cases head
    exact ends
  | cons first space =>
    intro d head
    cases head
    rw [endsValue, blank first List.mem_cons_self, Bool.true_or, Bool.true_or, Bool.true_or]

/-- What stands between a value and the next key ends the value. -/
theorem Lead.ends {lead : List Char} (leads : Lead false lead) (rest : List Char) :
    Ends (lead ++ rest) := by
  cases leads with
  | next blank _ =>
    rw [List.append_assoc]
    exact ends_blank blank (by decide) _

/-- What stands behind a member ends its value. -/
theorem Members.ends {Value : String → α → List Char → Prop} {entries : List (String × α)}
    {text : List Char} (members : Members Value false entries text) (rest : List Char) :
    Ends (text ++ '}' :: rest) := by
  cases members with
  | done blank => exact ends_blank blank (by decide) rest
  | member leads =>
    rw [List.append_assoc]
    exact leads.ends _

/-- Space before a member does not count. -/
theorem readMember_space {space : List Char} (blank : Blank space) {c : Char}
    (notSpace : isSpace c = false) (isFirst : Bool) (rest : List Char) :
    ∃ le, readMember isFirst (space ++ c :: rest) =
      if c = '}' then .ok (.closed (c :: rest) le)
      else if isFirst then
        if c = '"' then readKey (space ++ c :: rest) rest le
        else .error (.next .keyNotString (c :: rest))
      else if c = ',' then readNextKey (space ++ c :: rest) rest le
      else .error (.next .expectedCommaOrBrace (c :: rest)) := by
  have skipped := skipSpace_blank blank notSpace rest
  refine ⟨by simp only [List.length_append, List.length_cons]; omega, ?_⟩
  unfold readMember
  split
  · next empty _ =>
    rw [skipped] at empty
    cases empty
  · next d others le same _ =>
    rw [skipped] at same
    cases same
    rfl

theorem readMember_done (isFirst : Bool) {space : List Char} (blank : Blank space)
    (rest : List Char) :
    ∃ bound, readMember isFirst (space ++ '}' :: rest) = .ok (.closed ('}' :: rest) bound) := by
  obtain ⟨le, member⟩ := readMember_space blank (by decide : isSpace '}' = false) isFirst rest
  exact ⟨le, member⟩

theorem readKey_spelled {text : List Char} {name : String} {spelling rest : List Char}
    (spelled : Spelled name.toList spelling)
    (short : (spelling ++ '"' :: rest).length < text.length) :
    ∃ shorter, readKey text (spelling ++ '"' :: rest) short =
      .ok (.key ⟨name, rest, shorter⟩) := by
  obtain ⟨shorter, taken⟩ := readQuoted_spelled spelled rest
  rw [String.ofList_toList] at taken
  refine ⟨Nat.lt_trans shorter short, ?_⟩
  rw [readKey, taken]
  rfl

theorem readNextKey_spelled {text : List Char} {space : List Char} (blank : Blank space)
    {name : String} {spelling rest : List Char} (spelled : Spelled name.toList spelling)
    (short : (space ++ '"' :: (spelling ++ '"' :: rest)).length < text.length) :
    ∃ shorter, readNextKey text (space ++ '"' :: (spelling ++ '"' :: rest)) short =
      .ok (.key ⟨name, rest, shorter⟩) := by
  have skipped := skipSpace_blank blank (by decide : isSpace '"' = false)
    (spelling ++ '"' :: rest)
  have short' : (spelling ++ '"' :: rest).length < text.length := by
    simp only [List.length_append, List.length_cons] at short ⊢
    omega
  obtain ⟨shorter, key⟩ := readKey_spelled spelled short'
  refine ⟨shorter, ?_⟩
  unfold readNextKey
  split
  · next others le same _ =>
    rw [skipped] at same
    cases same
    exact key
  · next empty _ =>
    rw [skipped] at empty
    cases empty
  · next same _ =>
    rw [skipped] at same
    cases same
  · next le notQuote _ _ =>
    exact (notQuote _ (by rw [skipped] at le; exact le) skipped (proof_irrel_heq _ _)).elim

theorem readMember_key {isFirst : Bool} {lead : List Char} (leads : Lead isFirst lead)
    {name : String} {spelling : List Char} (spelled : Spelled name.toList spelling)
    (rest : List Char) :
    ∃ shorter, readMember isFirst (lead ++ '"' :: (spelling ++ '"' :: rest)) =
      .ok (.key ⟨name, rest, shorter⟩) := by
  cases leads with
  | first blank =>
    obtain ⟨le, member⟩ := readMember_space blank (by decide : isSpace '"' = false) true
      (spelling ++ '"' :: rest)
    obtain ⟨shorter, key⟩ := readKey_spelled spelled le
    exact ⟨shorter, member.trans key⟩
  | next blank blank' =>
    rw [List.append_assoc, List.cons_append]
    obtain ⟨le, member⟩ := readMember_space blank (by decide : isSpace ',' = false) false _
    obtain ⟨shorter, key⟩ := readNextKey_spelled blank' spelled le
    exact ⟨shorter, member.trans key⟩

theorem readColon_blank {gap : List Char} (blank : Blank gap) (text : List Char) :
    readColon (gap ++ ':' :: text) = .ok text := by
  rw [readColon, skipSpace_blank blank (by decide)]
  rfl

theorem readMemberValue_takes {reader : Reader α} {gap text rest : List Char} {value : α}
    (blank : Blank gap) (taken : Takes reader text value rest) :
    Takes (readMemberValue reader) (gap ++ ':' :: text) value rest := by
  obtain ⟨shorter, read⟩ := taken
  have colon := readColon_blank blank text
  refine ⟨Nat.lt_trans shorter (readColon_length_lt colon), ?_⟩
  unfold readMemberValue
  split
  · next fault error =>
    rw [colon] at error
    cases error
  · next behind same =>
    rw [colon] at same
    cases same
    rw [read]
    rfl

/-! ### Objects -/

/-- Every text of a value is read as the value. -/
def Reads (reader : Reader α) (Value : α → List Char → Prop) : Prop :=
  ∀ value text, Value value text → ∀ rest, Ends rest → Takes reader (text ++ rest) value rest

theorem finish_ok {close : List Char → Except Fault (List Char)}
    (bound : ∀ {text rest}, close text = .ok rest → rest.length ≤ text.length) {limit : Nat}
    {value : α} {text rest : List Char} (shorter : text.length < limit)
    (closed : close text = .ok rest) :
    ∃ shorter', finish close bound (.ok (⟨value, text, shorter⟩ : Text.Read limit α)) =
      .ok ⟨value, rest, shorter'⟩ := by
  refine ⟨Nat.lt_of_le_of_lt (bound closed) shorter, ?_⟩
  unfold finish
  simp only
  split
  · next fault error =>
    rw [closed] at error
    cases error
  · next after same =>
    rw [closed] at same
    cases same
    rfl

theorem finish_close {limit : Nat} {value : α} {rest : List Char}
    (shorter : ('}' :: rest).length < limit) :
    ∃ shorter', finish closeObject closeObject_length_le
      (.ok (⟨value, '}' :: rest, shorter⟩ : Text.Read limit α)) = .ok ⟨value, rest, shorter'⟩ :=
  finish_ok closeObject_length_le shorter rfl

theorem lookup_of_mem {found : List (String × α)} (distinct : (found.map (·.1)).Nodup)
    {name : String} {value : α} (member : (name, value) ∈ found) :
    found.lookup name = some value := by
  induction found with
  | nil => exact absurd member List.not_mem_nil
  | cons entry found ih =>
    obtain ⟨distant, distinct⟩ := List.nodup_cons.1 distinct
    rcases List.mem_cons.1 member with rfl | member
    · rw [List.lookup_cons, beq_self_eq_true]
    · have differ : name ≠ entry.1 := fun same =>
        distant (List.mem_map.2 ⟨(name, value), member, same⟩)
      rw [List.lookup_cons, beq_false_of_ne differ, ih distinct member]

theorem gather_cons {found : List (String × α)} {name : String} {names : List String} {value : α}
    {values : { values : List α // values.length = names.length }}
    (first : found.lookup name = some value) (others : gather found names = .ok values) :
    gather found (name :: names) = .ok ⟨value :: values.1, congrArg (· + 1) values.2⟩ := by
  rw [gather, first, others]

/-- The entries with a value. -/
def counted (entries : List (String × Option α)) : List (String × α) :=
  entries.filterMap fun entry => entry.2.map fun value => (entry.1, value)

theorem counted_some (name : String) (value : α) (entries : List (String × Option α)) :
    counted ((name, some value) :: entries) = (name, value) :: counted entries := rfl

namespace RecordShape

/-- A record is read from its members in any order. Those that are no fields of it are passed over. -/
theorem readMembers_members {shape : RecordShape α} {Value : String → Option α → List Char → Prop}
    (known : ∀ name value text, Value name (some value) text → ∃ reader,
      shape.fields.lookup name = some reader ∧
        ∀ rest, Ends rest → Takes reader (text ++ rest) value rest)
    (additional : ∀ name text, Value name none text → shape.fields.lookup name = none ∧
      ∀ rest, Ends rest → Takes skipValue (text ++ rest) () rest)
    {isFirst : Bool} {entries : List (String × Option α)} {text : List Char}
    (members : Members Value isFirst entries text) {found : List (String × α)}
    (fresh : ∀ entry ∈ counted entries, found.lookup entry.1 = none)
    (distinct : ((counted entries).map (·.1)).Nodup) {values : shape.Values}
    (gathered : gather ((counted entries).reverse ++ found) shape.names = .ok values) (limit : Nat)
    (rest : List Char) (bound : (text ++ '}' :: rest).length < limit) :
    ∃ shorter, shape.readMembers limit found isFirst (text ++ '}' :: rest) bound =
      .ok ⟨values, '}' :: rest, shorter⟩ := by
  induction members generalizing found with
  | done blank =>
    obtain ⟨le, done⟩ := readMember_done _ blank rest
    refine ⟨Nat.lt_of_le_of_lt le bound, ?_⟩
    rw [readMembers, done]
    simp only
    rw [show gather found shape.names = .ok values from gathered]
  | @member isFirst lead spelling gap text others name value entries leads spelled blank written
      later ih =>
    simp only [List.append_assoc, List.cons_append] at bound ⊢
    obtain ⟨shorter, key⟩ :=
      readMember_key leads spelled (gap ++ ':' :: (text ++ (others ++ '}' :: rest)))
    cases value with
    | none =>
      obtain ⟨unlisted, passes⟩ := additional name text written
      obtain ⟨less, member⟩ := readMemberValue_takes blank (passes _ (later.ends rest))
      obtain ⟨short, done⟩ :=
        ih fresh distinct gathered (Text.length_lt_trans_bound less shorter bound)
      refine ⟨short, ?_⟩
      rw [readMembers, key]
      simp only [unlisted, member, done]
    | some value =>
      obtain ⟨reader, listed, reads⟩ := known name value text written
      obtain ⟨distant, distinct⟩ := List.nodup_cons.1 distinct
      have notFound : found.lookup name = none := fresh _ List.mem_cons_self
      have fresh' : ∀ entry ∈ counted entries, ((name, value) :: found).lookup entry.1 = none := by
        intro entry member
        have differ : entry.1 ≠ name := fun same =>
          distant (List.mem_map.2 ⟨entry, member, same⟩)
        rw [List.lookup_cons, beq_false_of_ne differ]
        exact fresh entry (List.mem_cons_of_mem _ member)
      obtain ⟨less, member⟩ := readMemberValue_takes blank (reads _ (later.ends rest))
      have bound' : (others ++ '}' :: rest).length < limit :=
        Text.length_lt_trans_bound less shorter bound
      rw [counted_some, List.reverse_cons, List.append_assoc] at gathered
      obtain ⟨short, done⟩ := ih fresh' distinct gathered bound'
      refine ⟨short, ?_⟩
      rw [readMembers, key]
      simp only [listed, notFound, Option.isSome_none, Bool.false_eq_true, if_false, member, done]

/-- A record written as an object is read from its members. -/
theorem read_object (shape : RecordShape α) {space : List Char} (blank : Blank space)
    (text : List Char) :
    ∃ bound, shape.read (space ++ '{' :: text) = finish closeObject closeObject_length_le
      (shape.readMembers (space ++ '{' :: text).length [] true text bound) := by
  have skipped := skipSpace_blank blank (by decide : isSpace '{' = false) text
  refine ⟨by simp only [List.length_append, List.length_cons]; omega, ?_⟩
  unfold read
  split
  · next empty _ =>
    rw [skipped] at empty
    cases empty
  · next same _ =>
    rw [skipped] at same
    cases same
    rw [if_pos rfl]

end RecordShape

end ReqlLua.Json
