import ReqlLua.Proofs.Json.Members

/-! Readers that refuse. An object is refused as a whole if the value of one of its members is, whatever
stands before and behind it. -/

namespace ReqlLua.Json

variable {α β : Type}

def Fails (reader : Reader α) (text : List Char) : Prop := ∃ fault, reader text = .error fault

/-- Texts of good values are read, texts of all others refused. -/
structure Judges (reader : Reader α) (Value : β → List Char → Prop) (Good : β → Prop) : Prop where
  takes : ∀ value text, Value value text → Good value → ∀ rest, Ends rest →
    ∃ result, Takes reader (text ++ rest) result rest
  refuses : ∀ value text, Value value text → ¬Good value → ∀ rest, Ends rest →
    Fails reader (text ++ rest)

theorem readMemberValue_fails {reader : Reader α} {gap text : List Char} (blank : Blank gap)
    (refused : Fails reader text) : Fails (readMemberValue reader) (gap ++ ':' :: text) := by
  obtain ⟨fault, refused⟩ := refused
  have colon := readColon_blank blank text
  refine ⟨fault, ?_⟩
  unfold readMemberValue
  split
  · next error =>
    rw [colon] at error
    cases error
  · next same =>
    rw [colon] at same
    cases same
    rw [refused]
    rfl

theorem finish_halted {limit : Nat} (close : List Char → Except Fault (List Char))
    (bound : ∀ {text rest}, close text = .ok rest → rest.length ≤ text.length) (halt : Halt) :
    ∃ fault, finish close bound (.error halt : Except Halt (Text.Read limit α)) = .error fault := by
  cases halt with
  | fault fault => exact ⟨fault, rfl⟩
  | atClose reason rest => exact ⟨_, rfl⟩

namespace RecordShape

variable {shape : RecordShape α} {Value : String → β → List Char → Prop} {Good : β → Prop}

theorem readMembers_halts
    (known : ∀ name, (∃ value text, Value name value text) →
      ∃ reader, shape.fields.lookup name = some reader ∧ Judges reader (Value name) Good)
    {isFirst : Bool} {entries : List (String × β)} {text : List Char}
    (members : Members Value isFirst entries text) (bad : ¬∀ entry ∈ entries, Good entry.2)
    (found : List (String × α)) (limit : Nat) (rest : List Char)
    (bound : (text ++ '}' :: rest).length < limit) :
    ∃ halt, shape.readMembers limit found isFirst (text ++ '}' :: rest) bound = .error halt := by
  induction members generalizing found with
  | done => exact (bad fun _ member => absurd member List.not_mem_nil).elim
  | @member isFirst lead spelling gap text others name value entries leads spelled blank written
      later ih =>
    obtain ⟨reader, listed, judges⟩ := known name ⟨value, text, written⟩
    simp only [List.append_assoc, List.cons_append] at bound ⊢
    obtain ⟨shorter, key⟩ :=
      readMember_key leads spelled (gap ++ ':' :: (text ++ (others ++ '}' :: rest)))
    rw [readMembers, key]
    simp only [listed]
    by_cases again : (found.lookup name).isSome = true
    · exact ⟨_, if_pos again⟩
    rw [if_neg again]
    by_cases good : Good value
    · obtain ⟨result, taken⟩ := judges.takes value text written good _ (later.ends rest)
      obtain ⟨less, member⟩ := readMemberValue_takes blank taken
      have bad' : ¬∀ entry ∈ entries, Good entry.2 := fun all =>
        bad (List.forall_mem_cons.2 ⟨good, all⟩)
      have bound' : (others ++ '}' :: rest).length < limit :=
        Text.length_lt_trans_bound less shorter bound
      obtain ⟨halt, halted⟩ := ih bad' ((name, result) :: found) bound'
      refine ⟨halt, ?_⟩
      rw [member]
      exact halted
    · obtain ⟨fault, refused⟩ := readMemberValue_fails blank
        (judges.refuses value text written good _ (later.ends rest))
      refine ⟨.fault fault, ?_⟩
      rw [refused]

theorem read_fails
    (known : ∀ name, (∃ value text, Value name value text) →
      ∃ reader, shape.fields.lookup name = some reader ∧ Judges reader (Value name) Good)
    {entries : List (String × β)} {text : List Char} (members : Members Value true entries text)
    (bad : ¬∀ entry ∈ entries, Good entry.2) {space : List Char} (blank : Blank space)
    (rest : List Char) : Fails shape.read (space ++ '{' :: (text ++ '}' :: rest)) := by
  obtain ⟨bound, object⟩ := shape.read_object blank (text ++ '}' :: rest)
  obtain ⟨halt, halted⟩ := readMembers_halts known members bad [] _ rest bound
  obtain ⟨fault, finished⟩ := finish_halted closeObject closeObject_length_le halt
  refine ⟨fault, ?_⟩
  rw [object, halted, finished]

end RecordShape

end ReqlLua.Json
