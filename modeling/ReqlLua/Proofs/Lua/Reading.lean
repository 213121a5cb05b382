import ReqlLua.Proofs.Lua.Packing
import ReqlLua.Proofs.Lua.Word
import ReqlLua.Proofs.Text.Splitting

/-! Reading the blocks back. A block is cut into entries at the separators between them, and an entry
into its fields at the signs around them. -/

namespace ReqlLua.Lua

open Text

/-! ### Forward declarations -/

/-- The names on a line of forward declarations, which begins with `local`. -/
def readDeclaration? (line : List Char) : Option (List String) :=
  let lead := "local ".toList
  if lead.isPrefixOf line then
    some ((splitAt ", ".toList (line.drop lead.length)).map String.ofList)
  else none

def readNames? (block : String) : Option (List String) :=
  ((splitAt "\n".toList block.toList).mapM readDeclaration?).map List.flatten

/-! ### Class declarations -/

/-- Identifier, tag and method of a class declaration, in which the identifier stands twice. -/
def readClassLine? (line : List Char) : Option (String × Int × String) := do
  let (identifier, line) ← cutAt? " = ast('".toList line
  let (repeated, line) ← cutAt? "', \x7btt = ".toList line
  let (tag, line) ← cutAt? ", st = '".toList line
  let (method, line) ← cutAt? "'\x7d)".toList line
  if repeated = identifier ∧ line = [] then
    some (String.ofList identifier, signedValue tag, String.ofList method)
  else none

def readClasses? (block : String) : Option (List (String × Int × String)) :=
  (splitAt "\n".toList block.toList).mapM readClassLine?

/-! ### Method entries -/

/-- The wrapper that has these parameters and calls its class with these arguments. A fixed arity is
the number of parameters before the options, which are handed on in front of the others. -/
def readWrapper? (parameters call : List String) : Option Wrapper :=
  if parameters = ["..."] then
    if call = ["\x7b\x7d", "..."] then some .plain
    else if call = ["get_opts(...)"] then some .optionsTail
    else none
  else if parameters.getLast? = some "opts" ∧ call = "opts" :: parameters.dropLast then
    some (.fixedArity parameters.dropLast.length)
  else none

/-- Method, class identifier and wrapper of an entry of the method table. -/
def readMethodEntry? (entry : List Char) : Option (String × String × Wrapper) := do
  let (method, entry) ← cutAt? " = function(".toList entry
  let (parameters, entry) ← cutAt? ") return ".toList entry
  let (identifier, entry) ← cutAt? "(".toList entry
  let (call, entry) ← cutAt? ") end".toList entry
  if entry = [] then
    (readWrapper? ((splitAt ", ".toList parameters).map String.ofList)
      ((splitAt ", ".toList call).map String.ofList)).map fun wrapper =>
        (String.ofList method, String.ofList identifier, wrapper)
  else none

def readMethods? (block : String) : Option (List (String × String × Wrapper)) :=
  (splitAt ",\n  ".toList block.toList).mapM readMethodEntry?

/-! ### Reading what was written -/

/-- What is read entry by entry is read as a whole. -/
theorem mapM_of_forall {α β γ : Type} {read : β → Option γ} {write : α → β} {value : α → γ}
    {entries : List α} (reads : ∀ entry ∈ entries, read (write entry) = some (value entry)) :
    (entries.map write).mapM read = some (entries.map value) := by
  induction entries with
  | nil => rfl
  | cons entry entries ih =>
    rw [List.map_cons, List.mapM_cons, reads entry List.mem_cons_self,
      ih fun other member => reads other (List.mem_cons_of_mem _ member)]
    rfl

theorem map_ofList_toList (texts : List String) :
    (texts.map String.toList).map String.ofList = texts := by
  simp

theorem splitAt_list {texts : List String} (nonempty : texts ≠ []) {separator : String} {mark : Char}
    (marked : mark ∈ separator.toList) (free : ∀ text ∈ texts, mark ∉ text.toList) :
    splitAt separator.toList (separator.intercalate texts).toList = texts.map String.toList := by
  rw [String.toList_intercalate]
  refine splitAt_intercalate marked ?_ ?_
  · exact fun empty => nonempty (List.map_eq_nil_iff.1 empty)
  · intro part member
    obtain ⟨text, among, rfl⟩ := List.mem_map.1 member
    exact free text among

theorem readDeclaration?_declaration {names : List String} (nonempty : names ≠ [])
    (words : ∀ name ∈ names, IsWord name) :
    readDeclaration? (declaration names).toList = some names := by
  have free : ∀ name ∈ names, ',' ∉ name.toList := fun name member =>
    (words name member).not_mem (by decide)
  rw [readDeclaration?, declaration, String.toList_append, if_pos (by simp), List.drop_left,
    splitAt_list nonempty (by decide) free, map_ofList_toList]

theorem readClassLine?_classLine {binding : Binding} (identifier : IsWord binding.term.identifier)
    (method : IsWord binding.method) :
    readClassLine? (classLine binding).toList =
      some (binding.term.identifier, binding.term.tag.toInt, binding.method) := by
  have blank : ' ' ∉ binding.term.identifier.toList := identifier.not_mem (by decide)
  have quote : '\'' ∉ binding.term.identifier.toList := identifier.not_mem (by decide)
  have comma : ',' ∉ (toString binding.term.tag.toInt).toList :=
    not_mem_toString (by decide) (by decide)
  have quote' : '\'' ∉ binding.method.toList := method.not_mem (by decide)
  have fields : (classLine binding).toList = binding.term.identifier.toList ++
      (" = ast('".toList ++ (binding.term.identifier.toList ++
        ("', \x7btt = ".toList ++ ((toString binding.term.tag.toInt).toList ++
          (", st = '".toList ++ (binding.method.toList ++ ("'\x7d)".toList ++ []))))))) := by
    simp only [classLine, String.toList_append, quoted_word identifier, quoted_word method]
    simp
  rw [readClassLine?, fields]
  apply (bind_cutAt?_separated (by decide) blank).trans
  apply (bind_cutAt?_separated (by decide) quote).trans
  apply (bind_cutAt?_separated (by decide) comma).trans
  apply (bind_cutAt?_separated (by decide) quote').trans
  apply (if_pos ⟨rfl, rfl⟩).trans
  rw [signedValue_toString, String.ofList_toList, String.ofList_toList]

theorem readWrapper?_fixedArity (count : Nat) :
    readWrapper? (arguments count ++ ["opts"]) ("opts" :: arguments count) =
      some (.fixedArity count) := by
  have notDots : arguments count ++ ["opts"] ≠ ["..."] := by
    intro same
    have last := congrArg List.getLast? same
    rw [List.getLast?_concat] at last
    exact absurd last (by decide)
  rw [readWrapper?, if_neg notDots, List.getLast?_concat, List.dropLast_concat,
    if_pos ⟨rfl, rfl⟩, length_arguments]

/-- Parameters and call of a wrapper function. -/
def wrapperLists : Wrapper → List String × List String
  | .plain => (["..."], ["\x7b\x7d", "..."])
  | .optionsTail => (["..."], ["get_opts(...)"])
  | .fixedArity count => (arguments count ++ ["opts"], "opts" :: arguments count)

theorem wrapperFunction_eq (identifier : String) (wrapper : Wrapper) :
    wrapperFunction identifier wrapper =
      function (", ".intercalate (wrapperLists wrapper).1)
        (", ".intercalate (wrapperLists wrapper).2) identifier := by
  cases wrapper <;> rfl

theorem readWrapper?_wrapperLists (wrapper : Wrapper) :
    readWrapper? (wrapperLists wrapper).1 (wrapperLists wrapper).2 = some wrapper := by
  cases wrapper with
  | plain => rfl
  | optionsTail => rfl
  | fixedArity count => exact readWrapper?_fixedArity count

theorem not_mem_argument {count : Nat} {argument : String} (member : argument ∈ arguments count)
    {c : Char} (notDigit : c.isDigit = false) (sign : c ∉ "arg".toList) : c ∉ argument.toList := by
  obtain ⟨index, -, rfl⟩ := List.mem_map.1 member
  rw [String.toList_append, toString_nat_toList]
  intro among
  rcases List.mem_append.1 among with among | among
  · exact sign among
  · rw [isDigit_of_mem_toDigits among] at notDigit
    exact Bool.noConfusion notDigit

/-- The characters of the parameters, digits apart. -/
def parameterChars : List Char := "...argopts".toList

/-- The characters of the arguments of a call, digits apart. -/
def callChars : List Char := "\x7b\x7d...get_opts(...)argopts".toList

theorem not_mem_parameter {wrapper : Wrapper} {parameter : String}
    (member : parameter ∈ (wrapperLists wrapper).1) {c : Char} (notDigit : c.isDigit = false)
    (sign : c ∉ parameterChars) : c ∉ parameter.toList := by
  have dots : "...".toList ⊆ parameterChars := by decide
  have word : "arg".toList ⊆ parameterChars := by decide
  have options : "opts".toList ⊆ parameterChars := by decide
  cases wrapper with
  | plain =>
    cases List.mem_singleton.1 member
    exact fun among => sign (dots among)
  | optionsTail =>
    cases List.mem_singleton.1 member
    exact fun among => sign (dots among)
  | fixedArity count =>
    rcases List.mem_append.1 member with member | member
    · exact not_mem_argument member notDigit fun among => sign (word among)
    · cases List.mem_singleton.1 member
      exact fun among => sign (options among)

theorem not_mem_call {wrapper : Wrapper} {argument : String}
    (member : argument ∈ (wrapperLists wrapper).2) {c : Char} (notDigit : c.isDigit = false)
    (sign : c ∉ callChars) : c ∉ argument.toList := by
  have table : "\x7b\x7d".toList ⊆ callChars := by decide
  have dots : "...".toList ⊆ callChars := by decide
  have lookup : "get_opts(...)".toList ⊆ callChars := by decide
  have word : "arg".toList ⊆ callChars := by decide
  have options : "opts".toList ⊆ callChars := by decide
  cases wrapper with
  | plain =>
    rcases List.mem_cons.1 member with rfl | member
    · exact fun among => sign (table among)
    · cases List.mem_singleton.1 member
      exact fun among => sign (dots among)
  | optionsTail =>
    cases List.mem_singleton.1 member
    exact fun among => sign (lookup among)
  | fixedArity count =>
    rcases List.mem_cons.1 member with rfl | member
    · exact fun among => sign (options among)
    · exact not_mem_argument member notDigit fun among => sign (word among)

theorem not_mem_joined {texts : List String} {separator : String} {c : Char}
    (sign : c ∉ separator.toList) (free : ∀ text ∈ texts, c ∉ text.toList) :
    c ∉ (separator.intercalate texts).toList := by
  rw [String.toList_intercalate]
  induction texts with
  | nil => exact List.not_mem_nil
  | cons text later ih =>
    have freeText := free text List.mem_cons_self
    have freeLater := ih fun other member => free other (List.mem_cons_of_mem _ member)
    cases later with
    | nil => simpa using freeText
    | cons next others =>
      rw [List.map_cons, List.map_cons, List.intercalate_cons_cons]
      intro member
      rcases List.mem_append.1 member with member | member
      · rcases List.mem_append.1 member with member | member
        · exact freeText member
        · exact sign member
      · exact freeLater member

theorem not_mem_declaration {group : List String} {c : Char} (other : isBlockChar c = false)
    (free : ∀ name ∈ group, c ∉ name.toList) : c ∉ (declaration group).toList := by
  rw [declaration, String.toList_append, List.mem_append, not_or]
  exact ⟨not_mem_of_isBlockChar (by decide) other,
    not_mem_joined (not_mem_of_isBlockChar (by decide) other) free⟩

/-- The lines of the text are those of the groups. -/
theorem splitAt_names (width : Nat) {identifiers : List String} (nonempty : identifiers ≠ [])
    (oneLine : ∀ identifier ∈ identifiers, '\n' ∉ identifier.toList) :
    splitAt "\n".toList (names width identifiers).toList =
      ((nameGroups width identifiers).map declaration).map String.toList := by
  have someLine : (nameGroups width identifiers).map declaration ≠ [] := fun empty =>
    nameGroups_ne_nil nonempty (List.map_eq_nil_iff.1 empty)
  have free : ∀ line ∈ (nameGroups width identifiers).map declaration, '\n' ∉ line.toList := by
    intro line member
    obtain ⟨group, among, rfl⟩ := List.mem_map.1 member
    exact not_mem_declaration (by decide) fun name one =>
      oneLine name (mem_of_mem_nameGroups among one)
  exact splitAt_list someLine (by decide) free

theorem readMethodEntry?_methodEntry {binding : Binding} (method : IsWord binding.method)
    (identifier : IsWord binding.term.identifier) :
    readMethodEntry? (methodEntry binding).toList =
      some (binding.method, binding.term.identifier, binding.wrapper) := by
  let parameters := (wrapperLists binding.wrapper).1
  let call := (wrapperLists binding.wrapper).2
  have blank : ' ' ∉ binding.method.toList := method.not_mem (by decide)
  have closing : ')' ∉ (", ".intercalate parameters).toList :=
    not_mem_joined (by decide) fun _ member => not_mem_parameter member (by decide) (by decide)
  have opening : '(' ∉ binding.term.identifier.toList := identifier.not_mem (by decide)
  -- The call may hold brackets and blanks, but not this letter of the word behind it.
  have letter : 'n' ∉ (", ".intercalate call).toList :=
    not_mem_joined (by decide) fun _ member => not_mem_call member (by decide) (by decide)
  have fields : (methodEntry binding).toList = binding.method.toList ++ (" = function(".toList ++
      ((", ".intercalate parameters).toList ++ (") return ".toList ++
        (binding.term.identifier.toList ++ ("(".toList ++
          ((", ".intercalate call).toList ++ (") end".toList ++ []))))))) := by
    simp only [methodEntry, wrapperFunction_eq, function, String.toList_append]
    simp [parameters, call]
  have someParameter : parameters ≠ [] := by
    cases wrapper : binding.wrapper <;> simp [parameters, wrapper, wrapperLists]
  have someArgument : call ≠ [] := by
    cases wrapper : binding.wrapper <;> simp [call, wrapper, wrapperLists]
  unfold readMethodEntry?
  rw [fields]
  apply (bind_cutAt?_separated (by decide) blank).trans
  apply (bind_cutAt?_separated (by decide) closing).trans
  apply (bind_cutAt?_separated (by decide) opening).trans
  apply (bind_cutAt?_separated (by decide) letter).trans
  apply (if_pos rfl).trans
  have comma : ∀ parameter ∈ parameters, ',' ∉ parameter.toList := fun _ member =>
    not_mem_parameter member (by decide) (by decide)
  have comma' : ∀ argument ∈ call, ',' ∉ argument.toList := fun _ member =>
    not_mem_call member (by decide) (by decide)
  rw [splitAt_list someParameter (by decide) comma, splitAt_list someArgument (by decide) comma',
    map_ofList_toList, map_ofList_toList, readWrapper?_wrapperLists, Option.map_some,
    String.ofList_toList, String.ofList_toList]

end ReqlLua.Lua
