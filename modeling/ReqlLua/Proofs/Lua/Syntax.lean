import ReqlLua.Proofs.Lua.Table

/-! The part of Lua that method entries are written in: functions that return the value of one expression,
which is built of names, calls, empty tables and the rest of the arguments. A text is cut into tokens, and
the tokens are read as a function. -/

namespace ReqlLua.Lua

/-! ### Tokens -/

inductive Token where
  | word (text : String)
  | dots
  | sign (c : Char)
deriving DecidableEq

/-- The characters between tokens. -/
def isSpace (c : Char) : Bool := c ∈ [' ', '\t', '\n', '\x0b', '\x0c', '\r']

def isSign (c : Char) : Bool := c ∈ ['(', ')', ',', '\x7b', '\x7d']

theorem length_dropWhile_lt (text : List Char) :
    (text.dropWhile isWordChar).length < text.length + 1 :=
  Nat.lt_succ_of_le (List.dropWhile_sublist isWordChar).length_le

/-- The tokens of a text. A word goes on as far as it can. -/
def tokens? : List Char → Option (List Token)
  | [] => some []
  | '.' :: '.' :: '.' :: text => (tokens? text).map (.dots :: ·)
  | c :: text =>
    if isWordChar c then
      (tokens? (text.dropWhile isWordChar)).map
        (.word (String.ofList (c :: text.takeWhile isWordChar)) :: ·)
    else if isSpace c then tokens? text
    else if isSign c then (tokens? text).map (.sign c :: ·)
    else none
termination_by text => text.length
decreasing_by
  all_goals simp only [List.length_cons]
  · omega
  · exact length_dropWhile_lt text
  · omega
  · omega

/-- Whether no word goes on at the front of the text. -/
def EndsWord (text : List Char) : Prop := ∀ c ∈ text.head?, isWordChar c = false

theorem endsWord_cons {c : Char} (other : isWordChar c = false) (text : List Char) : EndsWord (c :: text) := by
  rintro _ ⟨⟩
  exact other

theorem tokens?_word {text : String} (word : IsWord text) (nonempty : text ≠ "") {rest : List Char}
    (ends : EndsWord rest) : tokens? (text.toList ++ rest) = (tokens? rest).map (.word text :: ·) := by
  have stops : rest.takeWhile isWordChar = [] ∧ rest.dropWhile isWordChar = rest := by
    cases rest with
    | nil => exact ⟨rfl, rfl⟩
    | cons c rest => simp [ends c rfl]
  cases shape : text.toList with
  | nil => exact absurd (String.toList_eq_nil_iff.1 shape) nonempty
  | cons c others =>
    have first : isWordChar c = true := word c (by simp [shape])
    have later : ∀ d ∈ others, isWordChar d = true := fun d member => word d (by simp [shape, member])
    have notDot : c ≠ '.' := fun same => absurd (same ▸ first) (by decide)
    rw [List.cons_append, tokens?, if_pos first, List.takeWhile_append_of_pos later,
      List.dropWhile_append_of_pos later, stops.1, stops.2, List.append_nil, ← shape,
      String.ofList_toList]
    exact fun _ same => absurd same notDot

theorem tokens?_sign {c : Char} (sign : isSign c = true) (rest : List Char) :
    tokens? (c :: rest) = (tokens? rest).map (.sign c :: ·) := by
  have apart : isWordChar c = false ∧ isSpace c = false ∧ c ≠ '.' := by
    have member := of_decide_eq_true sign
    fin_cases member <;> decide
  obtain ⟨notWord, notSpace, notDot⟩ := apart
  rw [tokens?, notWord, notSpace, sign]
  · rfl
  · exact fun _ same => absurd same notDot

theorem tokens?_space (rest : List Char) : tokens? (' ' :: rest) = tokens? rest := by
  rw [tokens?]
  · rfl
  · exact fun _ same => absurd same (by decide)

theorem tokens?_dots (rest : List Char) :
    tokens? ('.' :: '.' :: '.' :: rest) = (tokens? rest).map (.dots :: ·) := by
  rw [tokens?]

/-! ### Expressions -/

/-- `rest` is the rest of the arguments, `table` a table without entries. -/
inductive Expression where
  | name (text : String)
  | rest
  | table
  | call (function : String) (arguments : List Expression)

/-- What has been read, and the tokens behind it. -/
structure Taken (limit : Nat) (α : Type) where
  value : α
  behind : List Token
  shorter : behind.length < limit

mutual

/-- The expression at the front of the tokens. Only a function that takes any number of arguments has a rest
of them. -/
def readExpression? (variadic : Bool) : (tokens : List Token) → Option (Taken tokens.length Expression)
  | .word name :: .sign '(' :: behind =>
    if IsFieldName name then
      (readArguments? variadic behind).map fun taken =>
        ⟨.call name taken.value, taken.behind, Nat.lt_add_right 2 taken.shorter⟩
    else none
  | .word name :: behind =>
    if IsFieldName name then some ⟨.name name, behind, Nat.lt_succ_self _⟩ else none
  | .dots :: behind => if variadic then some ⟨.rest, behind, Nat.lt_succ_self _⟩ else none
  | .sign '\x7b' :: .sign '\x7d' :: behind => some ⟨.table, behind, Nat.lt_add_of_pos_right Nat.two_pos⟩
  | _ => none
termination_by tokens => (tokens.length, 0)

/-- The arguments of a call, up to its closing bracket. -/
def readArguments? (variadic : Bool) :
    (tokens : List Token) → Option (Taken tokens.length (List Expression))
  | .sign ')' :: behind => some ⟨[], behind, Nat.lt_succ_self _⟩
  | tokens => readItems? variadic tokens
termination_by tokens => (tokens.length, 2)

/-- The arguments of a call that has some. -/
def readItems? (variadic : Bool) (tokens : List Token) :
    Option (Taken tokens.length (List Expression)) :=
  match readExpression? variadic tokens with
  | some ⟨first, .sign ')' :: behind, shorter⟩ => some ⟨[first], behind, Nat.lt_of_succ_lt shorter⟩
  | some ⟨first, .sign ',' :: behind, shorter⟩ =>
    have less : behind.length < tokens.length := Nat.lt_of_succ_lt shorter
    (readItems? variadic behind).map fun others =>
      ⟨first :: others.value, others.behind, others.shorter.trans less⟩
  | _ => none
termination_by (tokens.length, 1)

end

mutual

def Expression.tokens : Expression → List Token
  | .name text => [.word text]
  | .rest => [.dots]
  | .table => [.sign '\x7b', .sign '\x7d']
  | .call function arguments => .word function :: .sign '(' :: argumentTokens arguments

/-- The tokens of arguments, with the closing bracket. -/
def argumentTokens : List Expression → List Token
  | [] => [.sign ')']
  | [last] => last.tokens ++ [.sign ')']
  | first :: next :: others => first.tokens ++ .sign ',' :: argumentTokens (next :: others)

end

/-- Names are usable, and the rest of the arguments stands only where there may be one. -/
inductive Expression.Legal (variadic : Bool) : Expression → Prop
  | name {text : String} (usable : IsFieldName text) : Legal variadic (.name text)
  | rest (any : variadic = true) : Legal variadic .rest
  | table : Legal variadic .table
  | call {function : String} {arguments : List Expression} (usable : IsFieldName function)
      (each : ∀ argument ∈ arguments, Legal variadic argument) : Legal variadic (.call function arguments)

/-- The reader takes the tokens for the value in front of all tokens but an opening bracket. -/
def Takes {α : Type} (read? : (tokens : List Token) → Option (Taken tokens.length α))
    (tokens : List Token) (value : α) : Prop :=
  ∀ behind, behind.head? ≠ some (.sign '(') →
    ∃ shorter, read? (tokens ++ behind) = some ⟨value, behind, shorter⟩

theorem argumentTokens_head {arguments : List Expression} (nonempty : arguments ≠ []) :
    ∃ token others, argumentTokens arguments = token :: others ∧ token ≠ .sign ')' := by
  have head (expression : Expression) :
      ∃ token others, expression.tokens = token :: others ∧ token ≠ .sign ')' := by
    cases expression <;> exact ⟨_, _, by rw [Expression.tokens], by simp⟩
  match arguments with
  | [last] =>
    obtain ⟨token, others, shape, other⟩ := head last
    exact ⟨token, others ++ [.sign ')'], by rw [argumentTokens, shape, List.cons_append], other⟩
  | first :: next :: later =>
    obtain ⟨token, others, shape, other⟩ := head first
    exact ⟨token, others ++ .sign ',' :: argumentTokens (next :: later),
      by rw [argumentTokens, shape, List.cons_append], other⟩

theorem readItems?_takes {variadic : Bool} {arguments : List Expression} (nonempty : arguments ≠ [])
    (each : ∀ argument ∈ arguments, Takes (readExpression? variadic) argument.tokens argument)
    (behind : List Token) :
    ∃ shorter, readItems? variadic (argumentTokens arguments ++ behind) =
      some ⟨arguments, behind, shorter⟩ := by
  induction arguments with
  | nil => exact absurd rfl nonempty
  | cons first others ih =>
    cases others with
    | nil =>
      obtain ⟨less, read⟩ := each first List.mem_cons_self (.sign ')' :: behind) (by simp)
      rw [argumentTokens, List.append_assoc]
      refine ⟨by grind, ?_⟩
      rw [readItems?]
      simp only [List.cons_append, List.nil_append, read]
    | cons next others =>
      obtain ⟨less, read⟩ := each first List.mem_cons_self
        (.sign ',' :: (argumentTokens (next :: others) ++ behind)) (by simp)
      obtain ⟨less', read'⟩ := ih (by simp) fun argument member =>
        each argument (List.mem_cons_of_mem _ member)
      rw [argumentTokens, List.append_assoc]
      refine ⟨by grind, ?_⟩
      rw [readItems?]
      simp only [List.cons_append, read, read', Option.map_some]

theorem readArguments?_takes {variadic : Bool} {arguments : List Expression}
    (each : ∀ argument ∈ arguments, Takes (readExpression? variadic) argument.tokens argument)
    (behind : List Token) :
    ∃ shorter, readArguments? variadic (argumentTokens arguments ++ behind) =
      some ⟨arguments, behind, shorter⟩ := by
  cases arguments with
  | nil =>
    refine ⟨by simp [argumentTokens], ?_⟩
    simp only [argumentTokens, List.cons_append, List.nil_append, readArguments?]
  | cons first others =>
    have nonempty := List.cons_ne_nil first others
    obtain ⟨token, tail, shape, other⟩ := argumentTokens_head nonempty
    obtain ⟨shorter, read⟩ := readItems?_takes nonempty each behind
    refine ⟨shorter, ?_⟩
    rw [readArguments?, read]
    rw [shape, List.cons_append]
    exact fun _ same => other (List.cons.inj same).1

/-- An expression is read back from its tokens. -/
theorem readExpression?_takes {variadic : Bool} {expression : Expression}
    (legal : expression.Legal variadic) :
    Takes (readExpression? variadic) expression.tokens expression := by
  induction legal with
  | @name text usable =>
    intro behind apart
    refine ⟨by simp [Expression.tokens], ?_⟩
    simp only [Expression.tokens, List.cons_append, List.nil_append]
    rw [readExpression?, if_pos usable]
    rintro _ rfl
    exact apart rfl
  | rest any =>
    intro behind apart
    refine ⟨by simp [Expression.tokens], ?_⟩
    simp only [Expression.tokens, List.cons_append, List.nil_append, readExpression?, any, if_true]
  | table =>
    intro behind apart
    refine ⟨by simp [Expression.tokens], ?_⟩
    simp only [Expression.tokens, List.cons_append, List.nil_append, readExpression?]
  | @call function arguments usable each ih =>
    intro behind apart
    obtain ⟨less, read⟩ := readArguments?_takes ih behind
    refine ⟨by simp [Expression.tokens] at less ⊢; omega, ?_⟩
    simp only [Expression.tokens, List.cons_append]
    rw [readExpression?, if_pos usable, read]
    rfl

/-! ### Functions -/

/-- A function that returns the value of an expression. A variadic one takes more arguments than it has
parameters. -/
structure Function where
  parameters : List String
  variadic : Bool
  body : Expression

/-- Names, and three dots behind them or not. -/
def parameterList? : List Expression → Option (List String × Bool)
  | [] => some ([], false)
  | [.rest] => some ([], true)
  | .name text :: others => (parameterList? others).map fun read => (text :: read.1, read.2)
  | _ => none

def readFunction? (text : String) : Option Function := do
  match ← tokens? text.toList with
  | .word "function" :: .sign '(' :: tokens =>
    let head ← readArguments? true tokens
    let (parameters, variadic) ← parameterList? head.value
    match head.behind with
    | .word "return" :: tokens =>
      let body ← readExpression? variadic tokens
      if body.behind = [.word "end"] then some ⟨parameters, variadic, body.value⟩ else none
    | _ => none
  | _ => none

/-- A text that stands for the tokens of an expression, whatever follows that is not part of a word. -/
def Spells (text : String) (expression : Expression) : Prop :=
  ∀ rest, EndsWord rest →
    tokens? (text.toList ++ rest) = (tokens? rest).map (expression.tokens ++ ·)

theorem spells_name {name : String} (usable : IsFieldName name) : Spells name (.name name) := by
  have nonempty : name ≠ "" := fun empty => absurd (empty ▸ usable.1) (by decide)
  intro rest ends
  rw [tokens?_word usable.isWord nonempty ends, Expression.tokens]
  rfl

theorem spells_rest : Spells "..." .rest := by
  intro rest ends
  rw [Expression.tokens]
  exact tokens?_dots rest

theorem spells_table : Spells "\x7b\x7d" .table := by
  intro rest ends
  rw [Expression.tokens]
  apply (tokens?_sign (c := '\x7b') (by decide) ('\x7d' :: rest)).trans
  rw [tokens?_sign (by decide), Option.map_map]
  rfl

theorem tokens?_arguments {texts : List String} {arguments : List Expression}
    (spelled : List.Forall₂ Spells texts arguments) (rest : List Char) :
    tokens? ((", ".intercalate texts).toList ++ ')' :: rest) =
      (tokens? rest).map (argumentTokens arguments ++ ·) := by
  have closing : tokens? (')' :: rest) = (tokens? rest).map (.sign ')' :: ·) :=
    tokens?_sign (by decide) rest
  induction spelled with
  | nil =>
    rw [argumentTokens]
    exact closing
  | @cons text argument texts arguments first later ih =>
    cases later with
    | nil =>
      rw [String.intercalate_singleton, argumentTokens, first _ (endsWord_cons (by decide) _), closing,
        Option.map_map]
      simp [Function.comp_def]
    | @cons next other texts arguments second later =>
      have shape : (", ".intercalate (text :: next :: texts)).toList ++ ')' :: rest =
          text.toList ++ ',' :: ' ' :: ((", ".intercalate (next :: texts)).toList ++ ')' :: rest) := by
        rw [String.intercalate_cons_cons]
        simp
      rw [shape, argumentTokens, first _ (endsWord_cons (by decide) _), tokens?_sign (by decide),
        tokens?_space, ih, Option.map_map, Option.map_map]
      simp [Function.comp_def]

theorem spells_call {function : String} (usable : IsFieldName function) {texts : List String}
    {arguments : List Expression} (spelled : List.Forall₂ Spells texts arguments) :
    Spells (function ++ "(" ++ ", ".intercalate texts ++ ")") (.call function arguments) := by
  intro rest ends
  have shape : (function ++ "(" ++ ", ".intercalate texts ++ ")").toList ++ rest =
      function.toList ++ '(' :: ((", ".intercalate texts).toList ++ ')' :: rest) := by
    simp
  rw [shape, spells_name usable _ (endsWord_cons (by decide) _), tokens?_sign (by decide),
    tokens?_arguments spelled, Expression.tokens, Expression.tokens, Option.map_map, Option.map_map]
  rfl

/-- The tokens of a function are those of its parts between its keywords. -/
theorem tokens?_function {names texts : List String} {parameters arguments : List Expression}
    (head : List.Forall₂ Spells names parameters) {identifier : String}
    (usable : IsFieldName identifier) (call : List.Forall₂ Spells texts arguments) :
    tokens? (function (", ".intercalate names) (", ".intercalate texts) identifier).toList =
      some (.word "function" :: .sign '(' :: (argumentTokens parameters ++
        .word "return" :: ((Expression.call identifier arguments).tokens ++ [.word "end"]))) := by
  have shape : (function (", ".intercalate names) (", ".intercalate texts) identifier).toList =
      "function".toList ++ '(' :: ((", ".intercalate names).toList ++ ')' :: ' ' ::
        ("return".toList ++ ' ' :: ((identifier ++ "(" ++ ", ".intercalate texts ++ ")").toList ++
          ' ' :: ("end".toList ++ [])))) := by
    simp [function]
  have words : ∀ word ∈ keywords, IsWord word ∧ word ≠ "" := by decide
  have keyword {word : String} (kept : word ∈ keywords) {rest : List Char} (ends : EndsWord rest) :
      tokens? (word.toList ++ rest) = (tokens? rest).map (.word word :: ·) :=
    tokens?_word (words word kept).1 (words word kept).2 ends
  rw [shape, keyword (by decide) (endsWord_cons (by decide) _), tokens?_sign (by decide),
    tokens?_arguments head, tokens?_space, keyword (by decide) (endsWord_cons (by decide) _),
    tokens?_space, spells_call usable call _ (endsWord_cons (by decide) _), tokens?_space,
    keyword (by decide) (by simp [EndsWord]), tokens?]
  rfl

theorem readFunction?_function {names texts : List String} {parameters arguments : List Expression}
    (head : List.Forall₂ Spells names parameters) {identifier : String}
    (usable : IsFieldName identifier) (call : List.Forall₂ Spells texts arguments)
    (legal : ∀ parameter ∈ parameters, parameter.Legal true) {listed : List String} {variadic : Bool}
    (list : parameterList? parameters = some (listed, variadic))
    (legal' : ∀ argument ∈ arguments, argument.Legal variadic) :
    readFunction? (function (", ".intercalate names) (", ".intercalate texts) identifier) =
      some ⟨listed, variadic, .call identifier arguments⟩ := by
  obtain ⟨shorter, read⟩ := readArguments?_takes
    (fun parameter member => readExpression?_takes (legal parameter member))
    (.word "return" :: ((Expression.call identifier arguments).tokens ++ [.word "end"]))
  obtain ⟨shorter', read'⟩ := readExpression?_takes (.call usable legal') [.word "end"] (by simp)
  rw [readFunction?, tokens?_function head usable call]
  simp only [Option.bind_eq_bind, Option.bind_some, read, list, read', if_true]

example : readFunction? "function(a, ...) return f(g(a), ...) end" =
    some ⟨["a"], true, .call "f" [.call "g" [.name "a"], .rest]⟩ := by
  cbv

/-- Only a variadic function has a rest of its arguments. -/
example : readFunction? "function(a) return f(...) end" = none := by
  cbv

end ReqlLua.Lua
