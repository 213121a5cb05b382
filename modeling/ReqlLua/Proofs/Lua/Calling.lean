import ReqlLua.Proofs.Lua.Syntax

/-! What the functions of the method table do when they are called. Each calls the class of its term once,
whatever the number of its parameters and of the arguments it is given. -/

namespace ReqlLua

namespace Lua

/-! ### Running functions -/

structure Call (Value : Type) where
  function : Value
  arguments : List Value

/-- What a function finds when it is called: the values of the names that it does not declare itself, and
what the functions that it calls answer, which may depend on the calls before. -/
structure World (Value : Type) where
  nil : Value
  /-- A new table without entries. -/
  table : Value
  named : String → Value
  answer : List (Call Value) → List Value

/-- What names and the three dots stand for inside of a function. -/
structure Frame (Value : Type) where
  named : String → Value
  rest : List Value

/-- Parameters stand for the arguments in their order, and for `nil` where there are none left. Each hides
what had its name before. -/
def declare {Value : Type} (nil : Value) : List String → List Value → (String → Value) → String → Value
  | [], _, named => named
  | parameter :: parameters, given, named =>
    declare nil parameters given.tail (Function.update named parameter (given.headD nil))

mutual

/-- The values of an expression, and the calls made before it and by it. -/
def Expression.evaluate {Value : Type} (world : World Value) (frame : Frame Value) :
    Expression → List (Call Value) → List Value × List (Call Value)
  | .name text, calls => ([frame.named text], calls)
  | .rest, calls => (frame.rest, calls)
  | .table, calls => ([world.table], calls)
  | .call function arguments, calls =>
    let (values, calls) := evaluateArguments world frame arguments calls
    let calls := calls ++ [⟨frame.named function, values⟩]
    (world.answer calls, calls)

/-- Of every argument but the last only the first value is handed on. -/
def evaluateArguments {Value : Type} (world : World Value) (frame : Frame Value) :
    List Expression → List (Call Value) → List Value × List (Call Value)
  | [], calls => ([], calls)
  | [last], calls => last.evaluate world frame calls
  | first :: next :: others, calls =>
    let (values, calls) := first.evaluate world frame calls
    let (later, calls) := evaluateArguments world frame (next :: others) calls
    (values.headD world.nil :: later, calls)

end

/-- What a function returns, and the calls it makes. -/
def Function.invoke {Value : Type} (function : Function) (world : World Value) (given : List Value) :
    List Value × List (Call Value) :=
  let rest := if function.variadic then given.drop function.parameters.length else []
  function.body.evaluate world ⟨declare world.nil function.parameters given world.named, rest⟩ []

section

variable {Value : Type} {nil : Value} {parameters : List String} {given : List Value}
  {named : String → Value}

/-- Parameters do not capture other names. -/
theorem declare_of_not_mem {name : String} (free : name ∉ parameters) :
    declare nil parameters given named name = named name := by
  induction parameters generalizing given named with
  | nil => rfl
  | cons parameter parameters ih =>
    obtain ⟨other, later⟩ := List.ne_and_not_mem_of_not_mem_cons free
    rw [declare, ih later, Function.update_of_ne other]

/-- Parameters with names of their own stand for the arguments in their order. -/
theorem map_declare (distinct : parameters.Nodup) :
    parameters.map (declare nil parameters given named) =
      (List.range parameters.length).map fun index => given.getD index nil := by
  induction parameters generalizing given named with
  | nil => rfl
  | cons parameter parameters ih =>
    obtain ⟨free, distinct⟩ := List.nodup_cons.1 distinct
    have first : declare nil (parameter :: parameters) given named parameter = given.getD 0 nil := by
      rw [declare, declare_of_not_mem free, Function.update_self]
      cases given <;> rfl
    have later (index : Nat) : given.tail.getD index nil = given.getD (index + 1) nil := by
      cases given <;> rfl
    rw [List.map_cons, first, List.length_cons, List.range_succ_eq_map, List.map_cons, List.map_map]
    congr 1
    calc parameters.map (declare nil (parameter :: parameters) given named)
        = (List.range parameters.length).map fun index => given.tail.getD index nil := ih distinct
      _ = _ := List.map_congr_left fun index _ => later index

end

theorem evaluateArguments_names {Value : Type} (world : World Value) (frame : Frame Value)
    (names : List String) (calls : List (Call Value)) :
    evaluateArguments world frame (names.map .name) calls = (names.map frame.named, calls) := by
  induction names with
  | nil => rfl
  | cons name names ih =>
    cases names with
    | nil => rfl
    | cons next others =>
      rw [List.map_cons] at ih
      rw [List.map_cons, List.map_cons, evaluateArguments, Expression.evaluate]
      dsimp only
      rw [ih]
      rfl

/-! ### Wrapper functions -/

def wrapperSyntax (identifier : String) : Wrapper → Function
  | .plain => ⟨[], true, .call identifier [.table, .rest]⟩
  | .optionsTail => ⟨[], true, .call identifier [.call "get_opts" [.rest]]⟩
  | .fixedArity count =>
    ⟨arguments count ++ ["opts"], false, .call identifier (("opts" :: arguments count).map .name)⟩

theorem isFieldName_argument {count : Nat} {argument : String} (member : argument ∈ arguments count) :
    IsFieldName argument := by
  obtain ⟨index, -, rfl⟩ := List.mem_map.1 member
  have shape : ("arg" ++ toString index).toList = 'a' :: 'r' :: 'g' :: Nat.toDigits 10 index := by
    rw [String.toList_append, Text.toString_nat_toList]
    rfl
  have digits : (Nat.toDigits 10 index).all isWordChar = true := by
    refine List.all_eq_true.2 fun c among => isWordChar_iff.2 ?_
    exact .inr (.inr (.inl (Text.isDigit_of_mem_toDigits among)))
  constructor
  · rw [isName, shape]
    simp only [List.all_cons, digits]
    decide
  · intro kept
    have prefixes : ∀ word ∈ keywords, ¬['a', 'r'].isPrefixOf word.toList := by decide
    exact prefixes _ kept (by rw [shape]; rfl)

theorem isFieldName_of_mem_parameters {count : Nat} {name : String}
    (member : name ∈ "opts" :: arguments count) : IsFieldName name := by
  rcases List.mem_cons.1 member with rfl | member
  · decide
  · exact isFieldName_argument member

theorem spells_names {names : List String} (usable : ∀ name ∈ names, IsFieldName name) :
    List.Forall₂ Spells names (names.map .name) := by
  rw [List.forall₂_map_right_iff, List.forall₂_same]
  exact fun name member => spells_name (usable name member)

theorem parameterList?_names (names : List String) :
    parameterList? (names.map .name) = some (names, false) := by
  induction names with
  | nil => rfl
  | cons name names ih => rw [List.map_cons, parameterList?, ih, Option.map_some]

/-- A wrapper function is read as it was meant. -/
theorem readFunction?_wrapperFunction {identifier : String} (usable : IsFieldName identifier)
    (wrapper : Wrapper) :
    readFunction? (wrapperFunction identifier wrapper) = some (wrapperSyntax identifier wrapper) := by
  have dots : List.Forall₂ Spells ["..."] [.rest] := .cons spells_rest .nil
  have legal : ∀ argument ∈ [Expression.rest], argument.Legal true := by
    simpa using Expression.Legal.rest rfl
  rw [wrapperFunction_eq]
  cases wrapper with
  | plain =>
    have call : List.Forall₂ Spells ["\x7b\x7d", "..."] [.table, .rest] := .cons spells_table dots
    have legal' := List.forall_mem_cons.2 ⟨Expression.Legal.table, legal⟩
    exact readFunction?_function dots usable call legal rfl legal'
  | optionsTail =>
    have lookup : IsFieldName "get_opts" := by decide
    have call : List.Forall₂ Spells ["get_opts(...)"] [.call "get_opts" [.rest]] :=
      .cons (spells_call lookup dots) .nil
    exact readFunction?_function dots usable call legal rfl (by simpa using .call lookup legal)
  | fixedArity count =>
    have usable' : ∀ name ∈ arguments count ++ ["opts"], IsFieldName name := fun name member =>
      isFieldName_of_mem_parameters (by simpa [or_comm] using member)
    have legalNames (variadic : Bool) {names : List String} (each : ∀ name ∈ names, IsFieldName name) :
        ∀ argument ∈ names.map Expression.name, argument.Legal variadic :=
      List.forall_mem_map.2 fun name member => .name (each name member)
    exact readFunction?_function (spells_names usable') usable
      (spells_names fun _ => isFieldName_of_mem_parameters) (legalNames true usable')
      (parameterList?_names _) (legalNames false fun _ => isFieldName_of_mem_parameters)

/-! ### What a wrapper function does -/

theorem arguments_nodup (count : Nat) : (arguments count).Nodup := by
  refine List.Nodup.map ?_ List.nodup_range
  intro first second same
  have digits := congrArg String.toList (String.append_right_inj _ |>.1 same)
  rw [Text.toString_nat_toList, Text.toString_nat_toList] at digits
  rw [← Text.digitsValue_toDigits first, digits, Text.digitsValue_toDigits]

theorem wrapperSyntax_nodup (identifier : String) (wrapper : Wrapper) :
    (wrapperSyntax identifier wrapper).parameters.Nodup := by
  cases wrapper with
  | plain => exact List.nodup_nil
  | optionsTail => exact List.nodup_nil
  | fixedArity count =>
    refine List.Nodup.append (arguments_nodup count) (List.nodup_singleton _) ?_
    rw [List.disjoint_singleton]
    intro member
    exact not_mem_argument member (c := 's') (by decide) (by decide) (by decide)

theorem length_parameters (identifier : String) (count : Nat) :
    (wrapperSyntax identifier (.fixedArity count)).parameters.length = count + 1 :=
  List.length_append.trans (congrArg (· + 1) (length_arguments count))

/-- Parameters are in lower case, identifiers are not. -/
theorem not_mem_parameters {identifier : String} (wellFormed : Catalog.isIdentifier identifier = true)
    (wrapper : Wrapper) : identifier ∉ (wrapperSyntax identifier wrapper).parameters := by
  intro captured
  have lower : Catalog.isIdentifier identifier = false := by
    cases wrapper with
    | plain => exact absurd captured List.not_mem_nil
    | optionsTail => exact absurd captured List.not_mem_nil
    | fixedArity count =>
      rcases List.mem_append.1 captured with member | member
      · obtain ⟨index, -, rfl⟩ := List.mem_map.1 member
        rw [Catalog.isIdentifier, String.toList_append]
        rfl
      · rw [List.mem_singleton.1 member]
        decide
  rw [wellFormed] at lower
  cases lower

section

variable {Value : Type} (world : World Value) (given : List Value)

/-- The calls that a wrapper makes for the arguments of its class. -/
def lookups : Wrapper → List (Call Value)
  | .optionsTail => [⟨world.named "get_opts", given⟩]
  | _ => []

/-- What a wrapper calls its class with. -/
def handedOn : Wrapper → List Value
  | .plain => world.table :: given
  | .optionsTail => world.answer [⟨world.named "get_opts", given⟩]
  | .fixedArity count =>
    given.getD count world.nil :: (List.range count).map fun index => given.getD index world.nil

/-- A wrapper looks up the options if it has to and calls its class, whose results it returns. -/
theorem invoke_wrapperSyntax {identifier : String} (wellFormed : Catalog.isIdentifier identifier = true)
    (wrapper : Wrapper) :
    let calls := lookups world given wrapper ++ [⟨world.named identifier, handedOn world given wrapper⟩]
    (wrapperSyntax identifier wrapper).invoke world given = (world.answer calls, calls) := by
  cases wrapper with
  | plain => rfl
  | optionsTail => rfl
  | fixedArity count =>
    let parameters := (wrapperSyntax identifier (.fixedArity count)).parameters
    let named := declare world.nil parameters given world.named
    have free : named identifier = world.named identifier :=
      declare_of_not_mem (not_mem_parameters wellFormed _)
    have values : parameters.map named = (List.range (count + 1)).map (given.getD · world.nil) := by
      rw [← length_parameters identifier count]
      exact map_declare (wrapperSyntax_nodup identifier _)
    -- The options come last among the parameters and first in the call.
    have handed : ("opts" :: arguments count).map named = handedOn world given (.fixedArity count) := by
      rw [List.range_succ, List.map_append, show parameters = arguments count ++ ["opts"] from rfl,
        List.map_append] at values
      obtain ⟨others, last⟩ := List.append_inj' values rfl
      rw [List.map_cons, others, List.head_eq_of_cons_eq last, handedOn]
    change Expression.evaluate world ⟨named, []⟩ (.call identifier _) [] = _
    rw [Expression.evaluate, evaluateArguments_names]
    dsimp only
    rw [handed, free]
    rfl

end

/-- Name and function of a table field. -/
def readMethod? (field : List Char) : Option (String × Function) := do
  let (name, expression) ← readField? field
  let function ← readFunction? expression
  return (name, function)

/-- An entry of the method table is read as a function exactly if its method is no keyword. The function has
parameters with names of their own, none of which is that of the class. It calls the class of the term once,
with the arguments that the wrapper stands for, and no other function but the lookup of the options. -/
theorem methodEntry_calls {enumeration : Enumeration} {catalog : Catalog}
    (accepted : Catalog.ofEnumeration enumeration = .ok catalog) {binding : Binding}
    (among : binding.term ∈ catalog.terms) (method : MethodNames.isMethodName binding.method = true) :
    ∃ function : Function,
      readFunction? (wrapperFunction binding.term.identifier binding.wrapper) = some function ∧
      readMethod? (methodEntry binding).toList =
        (if binding.method ∈ keywords then none else some (binding.method, function)) ∧
      function.parameters.Nodup ∧ binding.term.identifier ∉ function.parameters ∧
      (∀ count, binding.wrapper = .fixedArity count → function.parameters.length = count + 1) ∧
      binding.term.identifier ≠ "get_opts" ∧
      ∀ (Value : Type) (world : World Value) (given : List Value),
        let calls := lookups world given binding.wrapper ++
          [⟨world.named binding.term.identifier, handedOn world given binding.wrapper⟩]
        function.invoke world given = (world.answer calls, calls) := by
  let identifier := binding.term.identifier
  have wellFormed : Catalog.isIdentifier identifier = true :=
    Catalog.isIdentifier_of_term accepted binding.term among
  have notLookup : identifier ≠ "get_opts" := by
    intro same
    rw [same] at wellFormed
    exact absurd wellFormed (by decide)
  have read : readFunction? (wrapperFunction identifier binding.wrapper) =
      some (wrapperSyntax identifier binding.wrapper) :=
    readFunction?_wrapperFunction (isFieldName_of_isIdentifier wellFormed) binding.wrapper
  refine ⟨wrapperSyntax identifier binding.wrapper, read, ?_, wrapperSyntax_nodup _ _,
    not_mem_parameters wellFormed _, ?_, notLookup,
    fun Value world given => invoke_wrapperSyntax world given wellFormed _⟩
  · rw [readMethod?, readField?_methodEntry method]
    split
    · rfl
    · change (readFunction? (wrapperFunction identifier binding.wrapper)).bind _ = _
      rw [read]
      rfl
  · intro count shape
    rw [shape, length_parameters]

/-- Three parameters, with two arguments given and with four. -/
theorem methodEntry_calls_slice :
    let term : Term := ⟨"SLICE", 30⟩
    let binding : Binding := ⟨term, "slice", .fixedArity 2⟩
    Catalog.ofEnumeration (.ofList [("SLICE", 30)]) = .ok ⟨[term]⟩ ∧
      methodEntry binding =
        "slice = function(arg0, arg1, opts) return SLICE(opts, arg0, arg1) end" ∧
      ∃ function, readMethod? (methodEntry binding).toList = some ("slice", function) ∧
        ∀ (Value : Type) (world : World Value) (a b c d : Value),
          (function.invoke world [a, b]).2 = [⟨world.named "SLICE", [world.nil, a, b]⟩] ∧
          (function.invoke world [a, b, c, d]).2 = [⟨world.named "SLICE", [c, a, b]⟩] := by
  intro term binding
  have accepted : Catalog.ofEnumeration (.ofList [("SLICE", 30)]) = .ok ⟨[term]⟩ := by rfl
  obtain ⟨function, -, read, -, -, -, -, invoked⟩ :=
    @methodEntry_calls _ _ accepted binding List.mem_cons_self (by decide)
  refine ⟨accepted, by cbv, function, read.trans (if_neg (by decide)), ?_⟩
  intro Value world a b c d
  rw [invoked, invoked]
  exact ⟨rfl, rfl⟩

/-- A method that has the letters of one and is a keyword. Its entry is not a field of a table, so there is
no function to call. -/
theorem methodEntry_of_keyword :
    let term : Term := ⟨"END", 1⟩
    let binding : Binding := ⟨term, "end", .plain⟩
    Catalog.ofEnumeration (.ofList [("END", 1)]) = .ok ⟨[term]⟩ ∧
      MethodNames.isMethodName binding.method = true ∧
      methodEntry binding = "end = function(...) return END(\x7b\x7d, ...) end" ∧
      ¬∃ function, readMethod? (methodEntry binding).toList = some (binding.method, function) := by
  intro term binding
  have method : MethodNames.isMethodName binding.method = true := by decide
  have unread : readMethod? (methodEntry binding).toList = none := by
    rw [readMethod?, readField?_methodEntry method, if_pos (by decide)]
    rfl
  refine ⟨by rfl, method, by cbv, ?_⟩
  rw [unread]
  simp

end Lua

end ReqlLua
