import ReqlLua.Proofs.Lua.Agreement

/-! Class declarations with methods of any text. Quoting keeps a method on its line and marks where it ends,
so the text has one line for each term and tells the identifiers, the tags and the methods. -/

namespace ReqlLua

namespace Lua

/-! ### Undoing quotes -/

/-- What was quoted up to the first quote that is not escaped, and the text behind that quote. -/
def unquoteBody? : List Char → Option (List Char × List Char)
  | [] => none
  | '\'' :: text => some ([], text)
  | '\\' :: letter :: text =>
    (unquoteBody? text).map fun read => ((if letter = 'n' then '\n' else letter) :: read.1, read.2)
  | c :: text => (unquoteBody? text).map fun read => (c :: read.1, read.2)

theorem unquoteBody?_escape (c : Char) (text : List Char) :
    unquoteBody? (escape c ++ text) = (unquoteBody? text).map fun read => (c :: read.1, read.2) := by
  unfold escape
  by_cases backslash : c = '\\'
  · rw [if_pos backslash, backslash]
    rfl
  by_cases quote : c = '\''
  · rw [if_neg backslash, if_pos quote, quote]
    rfl
  by_cases lineFeed : c = '\n'
  · rw [if_neg backslash, if_neg quote, if_pos lineFeed, lineFeed]
    rfl
  · rw [if_neg backslash, if_neg quote, if_neg lineFeed, List.singleton_append, unquoteBody?]
    · exact quote
    · exact fun _ _ same => absurd same backslash

/-- The end of a quoted text is found whatever characters it holds. -/
theorem unquoteBody?_flatMap (text rest : List Char) :
    unquoteBody? (text.flatMap escape ++ '\'' :: rest) = some (text, rest) := by
  induction text with
  | nil => rfl
  | cons c text ih =>
    rw [List.flatMap_cons, List.append_assoc, unquoteBody?_escape, ih]
    rfl

/-! ### Undoing declarations -/

/-- The lines of a text. The empty text has none. -/
def lines (text : String) : List (List Char) :=
  if text = "" then [] else Text.splitAt "\n".toList text.toList

theorem lines_joined {texts : List String} (oneLine : ∀ text ∈ texts, '\n' ∉ text.toList)
    (notBlank : texts ≠ [""]) : lines ("\n".intercalate texts) = texts.map String.toList := by
  by_cases none : texts = []
  · rw [none]
    rfl
  have split : Text.splitAt "\n".toList ("\n".intercalate texts).toList = texts.map String.toList :=
    splitAt_list none (by decide) oneLine
  have someText : "\n".intercalate texts ≠ "" := by
    intro empty
    have blank : Text.splitAt "\n".toList "".toList = [""].map String.toList := by decide +kernel
    rw [empty, blank] at split
    exact notBlank ((List.map_injective_iff.2 fun _ _ => String.toList_injective) split).symm
  rw [lines, if_neg someText, split]

/-- What a class declaration tells of a term. -/
abbrev Declared := String × Int64 × String

def declared (binding : Binding) : Declared :=
  (binding.term.identifier, binding.term.tag, binding.method)

/-- Identifier, tag and method of a class declaration, whatever the method holds. -/
def recoverLine? (line : List Char) : Option Declared := do
  let (identifier, line) ← Text.cutAt? " = ast('".toList line
  let (_, line) ← Text.cutAt? "', \x7btt = ".toList line
  let (tag, line) ← Text.cutAt? ", st = '".toList line
  let (method, _) ← unquoteBody? line
  some (String.ofList identifier, .ofInt (Text.signedValue tag), String.ofList method)

def recover? (text : String) : Option (List Declared) := (lines text).mapM recoverLine?

theorem recoverLine?_classLine {binding : Binding} (word : IsWord binding.term.identifier) :
    recoverLine? (classLine binding).toList = some (declared binding) := by
  have blank : ' ' ∉ binding.term.identifier.toList := word.not_mem (by decide)
  have quote : '\'' ∉ binding.term.identifier.toList := word.not_mem (by decide)
  have comma : ',' ∉ (toString binding.term.tag.toInt).toList :=
    Text.not_mem_toString (by decide) (by decide)
  have fields : (classLine binding).toList = binding.term.identifier.toList ++
      (" = ast('".toList ++ (binding.term.identifier.toList ++
        ("', \x7btt = ".toList ++ ((toString binding.term.tag.toInt).toList ++
          (", st = '".toList ++ (binding.method.toList.flatMap escape ++ '\'' :: "\x7d)".toList)))))) := by
    simp only [classLine, String.toList_append, quoted_word word]
    simp [quoted]
  rw [recoverLine?, fields]
  apply (Text.bind_cutAt?_separated (by decide) blank).trans
  apply (Text.bind_cutAt?_separated (by decide) quote).trans
  apply (Text.bind_cutAt?_separated (by decide) comma).trans
  dsimp only
  rw [unquoteBody?_flatMap, Text.signedValue_toString, Int64.ofInt_toInt, String.ofList_toList]
  simp [declared]

theorem classLine_ne_empty (binding : Binding) : classLine binding ≠ "" := by
  intro empty
  have size := congrArg String.length empty
  simp [classLine, String.length_append] at size

theorem lines_classes {bindings : List Binding}
    (words : ∀ binding ∈ bindings, IsWord binding.term.identifier) :
    lines (classes bindings) = bindings.map fun binding => (classLine binding).toList := by
  have notBlank : bindings.map classLine ≠ [""] := by
    intro blank
    obtain ⟨binding, -, empty⟩ := List.map_eq_singleton_iff.1 blank
    exact classLine_ne_empty _ empty
  rw [classes, lines_joined ?_ notBlank, List.map_map]
  · rfl
  · exact List.forall_mem_map.2 fun binding member => classLine_oneLine (words binding member)

theorem recover?_classes {bindings : List Binding}
    (words : ∀ binding ∈ bindings, IsWord binding.term.identifier) :
    recover? (classes bindings) = some (bindings.map declared) := by
  rw [recover?, lines_classes words]
  exact mapM_of_forall fun binding member => recoverLine?_classLine (words binding member)

end Lua

namespace Generator

open Lua

/-- The bindings of a catalog of terms, with tables of any kind. -/
def Plans (catalog : Catalog) (bindings : List Binding) : Prop :=
  ∃ enumeration tables, ∃ (home : Location) (tree : FileTree home),
    Catalog.ofEnumeration enumeration = .ok catalog ∧
      Attempt.on (planBindings tables catalog) tree = (.ok bindings, tree)

theorem Plans.terms {catalog : Catalog} {bindings : List Binding} (plans : Plans catalog bindings) :
    bindings.map Binding.term = catalog.terms := by
  obtain ⟨enumeration, tables, home, tree, accepted, planned⟩ := plans
  rw [bindings_of_planBindings planned, List.map_map]
  exact List.map_id _

theorem Plans.words {catalog : Catalog} {bindings : List Binding} (plans : Plans catalog bindings) :
    ∀ binding ∈ bindings, IsWord binding.term.identifier := by
  have terms := plans.terms
  obtain ⟨enumeration, tables, home, tree, accepted, planned⟩ := plans
  intro binding member
  have among : binding.term ∈ catalog.terms := terms ▸ List.mem_map_of_mem member
  exact Catalog.isWord_of_isIdentifier (Catalog.isIdentifier_of_term accepted binding.term among)

/-- Whatever the methods, the declarations have one line for each term, from which its identifier, its tag
and its method can be told. Plans with the same declarations tell the same of their terms. -/
theorem classes_recoverable {catalog : Catalog} {bindings : List Binding}
    (plans : Plans catalog bindings) :
    bindings.map Binding.term = catalog.terms ∧
      lines (classes bindings) = bindings.map (fun binding => (classLine binding).toList) ∧
      recover? (classes bindings) = some (bindings.map declared) ∧
      ∀ other others, Plans other others → classes others = classes bindings →
        others.map declared = bindings.map declared := by
  have recovered := recover?_classes plans.words
  refine ⟨plans.terms, lines_classes plans.words, recovered, fun other others plans' same => ?_⟩
  have recovered' := recover?_classes plans'.words
  rw [same, recovered] at recovered'
  exact (Option.some.inj recovered').symm

/-- One method with a quote, a backslash and the end of a declaration on a line of its own, another one that
looks like a whole declaration. -/
theorem classes_recoverable_hostileMethods :
    let names : MethodNames :=
      .ofList [("ADD", "it's\\\n'\x7d)"), ("DB", "a'\x7d)\nNOT = ast('NOT', \x7btt = 1, st = 'b")]
    let tables : Tables := { Tables.reql with names }
    let catalog : Catalog := ⟨[⟨"ADD", -24⟩, ⟨"DB", 14⟩]⟩
    ∃ bindings, Attempt.on (planBindings tables catalog) .bare = (.ok bindings, .bare) ∧
      Plans catalog bindings ∧ (lines (classes bindings)).length = 2 ∧
      recover? (classes bindings) = some [("ADD", -24, "it's\\\n'\x7d)"),
        ("DB", 14, "a'\x7d)\nNOT = ast('NOT', \x7btt = 1, st = 'b")] := by
  intro names tables catalog
  let bindings := catalog.terms.map tables.binding
  let terms : Enumeration := .ofList [("DB", 14), ("DATUM", 1), ("ADD", -24)]
  have accepted : Catalog.ofEnumeration terms = .ok catalog := by rfl
  have planned : Attempt.on (planBindings tables catalog) .bare = (.ok bindings, .bare) :=
    (on_planBindings tables catalog .bare).trans (by rfl)
  have plans : Plans catalog bindings := ⟨terms, tables, [], .bare, accepted, planned⟩
  obtain ⟨-, split, recovered, -⟩ := classes_recoverable plans
  refine ⟨bindings, planned, plans, ?_, recovered⟩
  rw [split, List.length_map]
  rfl

end Generator

end ReqlLua
