import ReqlLua.Proofs.Template.Closed

/-! Brackets without a key. Blanks alone between brackets are a marker all the same, whose key is empty. A
pair of brackets with nothing between them is no marker, but it leaves its opener open: the text behind it up
to the next closer on the line belongs to the key. -/

namespace ReqlLua.Template

open Delimiters Text

variable {substitutions : Substitutions}

/-! ### Blanks between brackets -/

/-- Blanks of one line, at least one. -/
structure Blanks (text : String) : Prop where
  nonempty : text ≠ ""
  oneLine : '\n' ∉ text.toList
  blank : ∀ c ∈ text.toList, isBlank c = true

theorem Blanks.enclosable {text : String} (blanks : Blanks text) : Enclosable text.toList where
  nonempty empty := blanks.nonempty (String.toList_eq_nil_iff.1 empty)
  oneLine := blanks.oneLine
  unclosed member := absurd (blanks.blank _ member) (by decide)

theorem nameIn_eq_empty_iff {raw : List Char} : nameIn raw = "" ↔ ∀ c ∈ raw, isBlank c = true := by
  rw [← trim_eq_nil_iff, nameIn, ← String.toList_eq_nil_iff, String.toList_ofList]

/-- The first marker is the one at the front when nothing in it closes it earlier. -/
theorem first_enclosed {raw : List Char} (enclosable : Enclosable raw) (rest : List Char) :
    delimiters.First (delimiters.around raw ++ rest) [] raw rest where
  split := rfl
  starts := enclosable.starts rest
  shortest := enclosable.shortest
  leftmost _ _ := Nat.zero_le _

theorem splice_blanks {before blanks : String} (closed : Closed before) (blank : Blanks blanks)
    (after : String) (substitutions : Substitutions) :
    splice (before ++ "--[[" ++ blanks ++ "]]" ++ after) substitutions = do
      let front ← splice before substitutions
      let value ← textFor substitutions "" before.utf8ByteSize
      let back ← (splice after substitutions).mapError
        (.behind (before ++ "--[[" ++ blanks ++ "]]").utf8ByteSize)
      return front ++ value ++ back := by
  have name : nameIn blanks.toList = "" := nameIn_eq_empty_iff.2 blank.blank
  rw [splice_marker closed (first_enclosed blank.enclosable after.toList), name]

theorem keys_eq_names (source : String) :
    (ofSource source).keys = (textsOf (ofSource source).pieces).map fun piece => nameIn piece.2 := by
  rw [← parts_keys, parts_eq_texts, List.map_map]
  rfl

/-- A key is empty exactly if blanks stand in brackets behind a text that leaves no opener open. -/
theorem empty_mem_keys_iff {source : String} :
    "" ∈ (ofSource source).keys ↔ ∃ before blanks after,
      source = before ++ "--[[" ++ blanks ++ "]]" ++ after ∧ Closed before ∧ Blanks blanks := by
  rw [keys_eq_names, List.mem_map]
  constructor
  · rintro ⟨⟨literal, raw⟩, member, name⟩
    obtain ⟨front, behind, split⟩ := List.append_of_mem member
    obtain ⟨nonempty, oneLine⟩ := found_between (ofSource_finds source) _ member
    have found : delimiters.Found source.toList (textsOf (ofSource source).pieces) (ofSource source).tail.toList :=
      ofSource_finds source
    have tiles := found_tiles found
    rw [split] at found tiles
    obtain ⟨earlier, closed⟩ := found_before found
    let before := String.ofList (sourceOf front ++ literal)
    have read : delimiters.Found before.toList front literal := by
      rw [String.toList_ofList]
      exact earlier
    have here : Closed before := by
      rw [Closed, ((ofSource_finds before).unique read).2]
      exact closed
    refine ⟨before, String.ofList raw, String.ofList (sourceOf behind ++ (ofSource source).tail.toList), ?_,
      here, ?_, ?_, ?_⟩
    · apply String.toList_inj.1
      simp only [tiles, before, sourceOf, List.flatMap_append, List.flatMap_cons, around_eq, String.toList_append,
        String.toList_ofList, List.append_assoc]
      rfl
    · rwa [Ne, String.ofList_eq_empty_iff]
    · rwa [String.toList_ofList]
    · rw [String.toList_ofList]
      exact nameIn_eq_empty_iff.1 name
  · rintro ⟨before, blanks, after, rfl, closed, blank⟩
    obtain ⟨cuts, found⟩ := exists_finds after.toList
    have finds := finds_append (finds_cutsOf before) closed
      (finds_marker (first_enclosed blank.enclosable after.toList) found)
    have same : (before ++ "--[[" ++ blanks ++ "]]" ++ after).toList =
        before.toList ++ (opener ++ (blanks.toList ++ (closer ++ after.toList))) := by
      simp only [String.toList_append, List.append_assoc]
      rfl
    rw [← same] at finds
    refine ⟨((cutsOf before).last ++ [], blanks.toList), ?_, nameIn_eq_empty_iff.2 blank.blank⟩
    change _ ∈ (cutsOf _).marked
    rw [cutsOf_eq finds]
    exact List.mem_append_right _ List.mem_cons_self

/-! ### Nothing between brackets -/

/-- The first closer of a text stands on its first line. -/
structure FirstCloser (text inner rest : String) : Prop where
  split : text = inner ++ "]]" ++ rest
  oneLine : '\n' ∉ inner.toList
  shortest : ∀ inner' rest', text = inner' ++ "]]" ++ rest' → inner.toList.length ≤ inner'.toList.length

theorem toList_closer (inner rest : String) :
    (inner ++ "]]" ++ rest).toList = inner.toList ++ (closer ++ rest.toList) := by
  rw [String.toList_append, String.toList_append, List.append_assoc]
  rfl

theorem firstCloser_of_unclosed {inner : String} (oneLine : '\n' ∉ inner.toList) (unclosed : ']' ∉ inner.toList)
    (rest : String) : FirstCloser (inner ++ "]]" ++ rest) inner rest where
  split := rfl
  oneLine := oneLine
  shortest inner' rest' split := by
    have lists := congrArg String.toList split
    rw [toList_closer, toList_closer] at lists
    exact length_le_of_closers unclosed lists

/-- Of the closers on the first line one is the first. -/
theorem exists_firstCloser {text inner rest : String} (split : text = inner ++ "]]" ++ rest)
    (oneLine : '\n' ∉ inner.toList) : ∃ inner' rest', FirstCloser text inner' rest' := by
  induction length : inner.toList.length using Nat.strong_induction_on generalizing inner rest with
  | _ length ih =>
    by_cases shortest : ∀ inner' rest', text = inner' ++ "]]" ++ rest' →
        inner.toList.length ≤ inner'.toList.length
    · exact ⟨inner, rest, split, oneLine, shortest⟩
    · simp only [not_forall, Nat.not_le] at shortest
      obtain ⟨inner', rest', split', shorter⟩ := shortest
      have lists : text.toList = inner.toList ++ (closer ++ rest.toList) := split ▸ toList_closer inner rest
      have lists' : text.toList = inner'.toList ++ (closer ++ rest'.toList) := split' ▸ toList_closer inner' rest'
      have before : inner'.toList <+: inner.toList := List.prefix_of_prefix_length_le
        (lists' ▸ List.prefix_append _ _) (lists ▸ List.prefix_append _ _) (Nat.le_of_lt shorter)
      exact ih _ (length ▸ shorter) split' (fun member => oneLine (before.subset member)) rfl

/-- The marker of an opener with a closer right behind it has that closer in its text. -/
theorem starts_pair {back other after : List Char} (apart : back.head? ≠ some ']')
    (starts : delimiters.Starts (opener ++ (closer ++ back)) other after) :
    ∃ inner, other = closer ++ inner ∧ back = inner ++ (closer ++ after) := by
  have split := List.append_cancel_left (starts_opener starts)
  match other, starts.nonempty, split with
  | [c], _, split =>
    simp only [closer, List.cons_append, List.nil_append, List.cons.injEq, true_and] at split
    rw [split.2] at apart
    exact absurd rfl apart
  | c :: d :: inner, _, split =>
    simp only [closer, List.cons_append, List.nil_append, List.cons.injEq] at split
    obtain ⟨rfl, rfl, split⟩ := split
    exact ⟨inner, rfl, split⟩

/-- Where no closer follows on the line, no marker starts in an empty pair. -/
theorem starts_behind_pair {back before behind other after : List Char} (apart : back.head? ≠ some ']')
    (unclosed : ∀ inner rest, back = inner ++ (closer ++ rest) → '\n' ∈ inner)
    (split : opener ++ closer ++ back = before ++ behind) (starts : delimiters.Starts behind other after) :
    (opener ++ closer).length ≤ before.length := by
  obtain rfl := starts_opener starts
  rw [List.append_assoc] at split
  match before, split with
  | [], split =>
    rw [List.nil_append] at split
    obtain ⟨inner, rfl, closed⟩ := starts_pair apart (split ▸ starts)
    have oneLine : '\n' ∉ closer ++ inner := starts.oneLine
    exact absurd (List.mem_append_right _ (unclosed inner after closed)) oneLine
  | [_], split => simp [opener, closer] at split
  | [_, _], split => simp [opener, closer] at split
  | [_, _, _], split => simp [opener, closer] at split
  | [_, _, _, _], split => simp [opener, closer] at split
  | [_, _, _, _, _], split => simp [opener, closer] at split
  | _ :: _ :: _ :: _ :: _ :: _ :: before, _ =>
    simp only [opener, closer, List.length_append, List.length_cons, List.length_nil]
    omega

/-- Behind a closed text an empty pair is copied if no closer follows on its line. -/
theorem splice_pair {before after : String} (closed : Closed before) (apart : after.toList.head? ≠ some ']')
    (unclosed : ¬∃ inner rest, FirstCloser after inner rest) (substitutions : Substitutions) :
    splice (before ++ "--[[]]" ++ after) substitutions = do
      let front ← splice before substitutions
      let back ← (splice after substitutions).mapError (.behind (before ++ "--[[]]").utf8ByteSize)
      return front ++ "--[[]]" ++ back := by
  have unclosed' : ∀ inner rest, after.toList = inner ++ (closer ++ rest) → '\n' ∈ inner := by
    intro inner rest split
    refine Decidable.byContradiction fun oneLine => unclosed ?_
    have read : after = String.ofList inner ++ "]]" ++ String.ofList rest := by
      apply String.toList_inj.1
      rw [toList_closer, String.toList_ofList, String.toList_ofList, split]
    exact exists_firstCloser read (by rwa [String.toList_ofList])
  have finds := (finds_cutsOf after).extend (opener ++ closer)
    fun split starts => starts_behind_pair apart unclosed' split starts
  have split : (before ++ "--[[]]" ++ after).toList = before.toList ++ (opener ++ (closer ++ after.toList)) := by
    simp only [String.toList_append, List.append_assoc]
    rfl
  rw [List.append_assoc] at finds
  have size : (before ++ "--[[]]").utf8ByteSize = before.utf8ByteSize + byteLength (opener ++ closer) := by
    rw [String.utf8ByteSize_append]
    rfl
  rw [splice_closed closed split finds, render_extend, splice_of_finds (finds_cutsOf after), size,
    ← mapError_behind, map_mapError]
  cases splice before substitutions with
  | error marker => rfl
  | ok front =>
    cases (cutsOf after).render substitutions with
    | error marker => rfl
    | ok back => exact congrArg Except.ok String.append_assoc.symm

/-- An empty pair whose line has another closer opens a marker, which that closer ends. -/
theorem FirstCloser.first {text inner rest : String} (ends : FirstCloser text inner rest)
    (apart : text.toList.head? ≠ some ']') :
    delimiters.First (delimiters.around ("]]" ++ inner).toList ++ rest.toList) [] ("]]" ++ inner).toList
      rest.toList := by
  have raw : ("]]" ++ inner).toList = closer ++ inner.toList := String.toList_append
  have lists : text.toList = inner.toList ++ (closer ++ rest.toList) := ends.split ▸ toList_closer inner rest
  have whole : delimiters.around (closer ++ inner.toList) ++ rest.toList = opener ++ (closer ++ text.toList) := by
    simp only [around_eq, lists, List.append_assoc]
  rw [raw]
  refine ⟨rfl, ⟨rfl, by simp [closer], ?_⟩, ?_, fun _ _ => Nat.zero_le _⟩
  · intro member
    rcases List.mem_append.1 member with inCloser | inInner
    · exact absurd inCloser (by decide)
    · exact ends.oneLine inInner
  · intro other after starts
    rw [whole] at starts
    obtain ⟨inner', rfl, closed⟩ := starts_pair apart starts
    have shortest := ends.shortest (String.ofList inner') (String.ofList after) (by
      apply String.toList_inj.1
      rw [toList_closer, String.toList_ofList, String.toList_ofList, closed])
    rw [String.toList_ofList] at shortest
    simp only [List.length_append]
    omega

/-! ### What is copied and what is a marker -/

/-- All keys hold something exactly if no blanks alone stand in brackets behind a text that leaves no opener open.
Such blanks are not copied: a text for the empty key takes their place, and splicing fails if there is none. Brackets
with nothing at all between them are copied, unless their line has another closer. -/
theorem keys_nonempty_iff (source : String) :
    ((∀ key ∈ (ofSource source).keys, key ≠ "") ↔ ¬∃ before blanks after,
      source = before ++ "--[[" ++ blanks ++ "]]" ++ after ∧ Closed before ∧ Blanks blanks) ∧
    (∀ before blanks after, source = before ++ "--[[" ++ blanks ++ "]]" ++ after → Closed before →
      Blanks blanks → ∀ substitutions, splice source substitutions = do
        let front ← splice before substitutions
        let value ← textFor substitutions "" before.utf8ByteSize
        let back ← (splice after substitutions).mapError
          (.behind (before ++ "--[[" ++ blanks ++ "]]").utf8ByteSize)
        return front ++ value ++ back) ∧
    ∀ before after, source = before ++ "--[[]]" ++ after → Closed before → after.toList.head? ≠ some ']' →
      (¬∃ inner rest, FirstCloser after inner rest) →
      ∀ substitutions, splice source substitutions = do
        let front ← splice before substitutions
        let back ← (splice after substitutions).mapError (.behind (before ++ "--[[]]").utf8ByteSize)
        return front ++ "--[[]]" ++ back := by
  refine ⟨?_, ?_, ?_⟩
  · rw [← empty_mem_keys_iff]
    exact ⟨fun nonempty member => nonempty "" member rfl,
      fun absent key member empty => absent (empty ▸ member)⟩
  · rintro before blanks after rfl closed blank substitutions
    exact splice_blanks closed blank after substitutions
  · rintro before after rfl closed apart unclosed substitutions
    exact splice_pair closed apart unclosed substitutions

/-- One blank between brackets is a marker with an empty key. -/
theorem blank_is_marker :
    (ofSource "--[[ ]]").pieces = [⟨"", " ", 0⟩] ∧ (ofSource "--[[ ]]").keys = [""] ∧
      splice "--[[ ]]" .empty = .error ⟨"", 0⟩ ∧
      ¬∀ source : String, ∀ key ∈ (ofSource source).keys, key ≠ "" := by
  refine ⟨by decide, by decide, by rfl, fun nonempty => ?_⟩
  exact nonempty "--[[ ]]" "" (by decide) rfl

/-- An empty pair behind whole lines is copied where no closer follows on its line. Where one follows, the pair opens
a marker that the first of them ends: its key begins with the closer of the pair, and what follows the marker is
spliced by itself. -/
theorem splice_emptyPair {first second front back : String} {substitutions : Substitutions}
    (lines : first = "" ∨ ∃ before, first = before ++ "\n") (apart : second.toList.head? ≠ some ']')
    (spliced : splice first substitutions = .ok front) (spliced' : splice second substitutions = .ok back) :
    ((¬∃ inner rest, FirstCloser second inner rest) →
      splice (first ++ "--[[]]" ++ second) substitutions = .ok (front ++ "--[[]]" ++ back)) ∧
    ∀ inner rest, FirstCloser second inner rest →
      splice (first ++ "--[[]]" ++ second) substitutions = do
        let value ← textFor substitutions (nameIn ("]]" ++ inner).toList) first.utf8ByteSize
        let later ← (splice rest substitutions).mapError
          (.behind (first ++ "--[[]]" ++ inner ++ "]]").utf8ByteSize)
        return front ++ value ++ later := by
  have closed := closed_of_lines lines
  constructor
  · intro unclosed
    rw [splice_pair closed apart unclosed, spliced, spliced']
    rfl
  · intro inner rest ends
    have pair : first ++ "--[[]]" = first ++ "--[[" ++ "]]" := by
      rw [String.append_assoc]
      rfl
    have source : first ++ "--[[]]" ++ second = first ++ "--[[" ++ ("]]" ++ inner) ++ "]]" ++ rest := by
      rw [pair, ends.split]
      simp only [String.append_assoc]
    have place : first ++ "--[[]]" ++ inner ++ "]]" = first ++ "--[[" ++ ("]]" ++ inner) ++ "]]" := by
      rw [pair]
      simp only [String.append_assoc]
    rw [source, place, splice_marker closed (ends.first apart), spliced]
    rfl

/-- Each part is spliced by itself. Together they are not: the pair takes the closer of the second part, and what is
left of that has a marker without a text. -/
theorem splice_emptyPair_openedAgain :
    let substitutions : Substitutions := .ofList [("]] --[[", "v"), ("]]x --[[y", "w")]
    "é --[[\n" = "é --[[" ++ "\n" ∧ " --[[]]x --[[y]]".toList.head? ≠ some ']' ∧
      splice "é --[[\n" substitutions = .ok "é --[[\n" ∧ splice " --[[]]x --[[y]]" substitutions = .ok " w" ∧
      FirstCloser " --[[]]x --[[y]]" " --[[" "x --[[y]]" ∧
      splice ("é --[[\n" ++ "--[[]]" ++ " --[[]]x --[[y]]") substitutions = .error ⟨"y", 23⟩ := by
  intro substitutions
  have lines : "é --[[\n" = "é --[[" ++ "\n" := by decide
  have apart : " --[[]]x --[[y]]".toList.head? ≠ some ']' := by decide
  have spliced : splice "é --[[\n" substitutions = .ok "é --[[\n" := by rfl
  have spliced' : splice " --[[]]x --[[y]]" substitutions = .ok " w" := by rfl
  have ends : FirstCloser (" --[[" ++ "]]" ++ "x --[[y]]") " --[[" "x --[[y]]" :=
    firstCloser_of_unclosed (by decide) (by decide) _
  refine ⟨lines, apart, spliced, spliced', ends, ?_⟩
  rw [(splice_emptyPair (.inr ⟨_, lines⟩) apart spliced spliced').2 _ _ ends]
  rfl

/-- The pair and the marker behind it make one marker, though each part is spliced by itself. -/
theorem emptyPair_opens_marker :
    let substitutions : Substitutions := .ofList [("x", "1")]
    splice "" substitutions = .ok "" ∧ splice " --[[x]]" substitutions = .ok " 1" ∧
      splice ("" ++ "--[[]]" ++ " --[[x]]") substitutions = .error ⟨"]] --[[x", 0⟩ ∧
      ¬∀ (first second front back : String) (substitutions : Substitutions),
        (first = "" ∨ ∃ before, first = before ++ "\n") → second.toList.head? ≠ some ']' →
        splice first substitutions = .ok front → splice second substitutions = .ok back →
        splice (first ++ "--[[]]" ++ second) substitutions = .ok (front ++ "--[[]]" ++ back) := by
  intro substitutions
  have spliced : splice "" substitutions = .ok "" := by rfl
  have spliced' : splice " --[[x]]" substitutions = .ok " 1" := by rfl
  have failed : splice ("" ++ "--[[]]" ++ " --[[x]]") substitutions = .error ⟨"]] --[[x", 0⟩ := by rfl
  refine ⟨spliced, spliced', failed, fun copied => ?_⟩
  have result := copied "" " --[[x]]" _ _ substitutions (.inl rfl) (by decide) spliced spliced'
  rw [failed] at result
  cases result

end ReqlLua.Template
