import ReqlLua.CommandLine

/-! Arguments that give each option at most once, in any order and with values attached to the names of the
options or not. They are understood exactly if every value can stand where it stands. -/

namespace ReqlLua.CommandLine

/-- An option as it is given. Its value is attached to its name by an equals sign, or is an argument of its
own. -/
inductive Item where
  | config (path : String) (attached : Bool)
  | logLevel (level : String) (attached : Bool)
  | noColor
deriving DecidableEq

namespace Item

def name : Item → String
  | .config _ _ => "--config"
  | .logLevel _ _ => "--log-level"
  | .noColor => "--no-color"

def spelled (name value : String) (attached : Bool) : List String :=
  if attached then [name ++ "=" ++ value] else [name, value]

def arguments : Item → List String
  | .config path attached => spelled "--config" path attached
  | .logLevel level attached => spelled "--log-level" level attached
  | .noColor => ["--no-color"]

/-- A path is not empty, and an argument of its own is not taken for an option. -/
def fits : Item → Bool
  | .config path attached => !path.isEmpty && (attached || isValue path)
  | .logLevel level attached => attached || isValue level
  | .noColor => true

def path? : Item → Option String
  | .config path _ => some path
  | _ => none

def level? : Item → Option String
  | .logLevel level _ => some level
  | _ => none

end Item

/-- Options with those that are given in addition. -/
def Options.with (options : Options) (items : List Item) : Options where
  config := options.config.or (items.findSome? Item.path?)
  logLevel := options.logLevel.or (items.findSome? Item.level?)
  noColor := options.noColor || items.contains .noColor

/-- The options that are given. -/
def optionsOf (items : List Item) : Options := Options.with ⟨none, none, false⟩ items

/-! ### Values -/

theorem attached?_self (name value : String) : attached? name (name ++ "=" ++ value) = some value := by
  unfold attached?
  simp

theorem isPrefixOf_append (lead rest : String) :
    lead.toList.isPrefixOf (lead ++ rest).toList = true := by
  rw [String.toList_append, List.isPrefixOf_iff_prefix]
  exact List.prefix_append _ _

/-- A text is none of those that do not begin as it does. -/
theorem append_not_mem {lead : String} {others : List String}
    (differ : ∀ other ∈ others, lead.toList.isPrefixOf other.toList = false) (rest : String) :
    lead ++ rest ∉ others := by
  intro member
  have leads := differ _ member
  rw [isPrefixOf_append] at leads
  cases leads

theorem attached?_level (level : String) : attached? "--config" ("--log-level=" ++ level) = none := by
  have other : ("--config" ++ "=").toList.isPrefixOf ("--log-level=" ++ level).toList = false := by
    rw [@String.toList_append "--log-level="]
    rfl
  unfold attached?
  dsimp only
  rw [other, if_neg Bool.false_ne_true]

theorem readSingle_config (options : Options) (path : String) :
    readSingle options ("--config=" ++ path) = (withConfig options path).map .inr := by
  have other : "--config=" ++ path ∉ ["--no-color", "--help", "--version"] :=
    append_not_mem (by decide) path
  have given : attached? "--config" ("--config=" ++ path) = some path := attached?_self "--config" path
  simp only [List.mem_cons, List.not_mem_nil, or_false, not_or] at other
  simp only [readSingle, other, if_false, given]

theorem readSingle_level (options : Options) (level : String) :
    readSingle options ("--log-level=" ++ level) = (withLevel options level).map .inr := by
  have other : "--log-level=" ++ level ∉ ["--no-color", "--help", "--version"] :=
    append_not_mem (by decide) level
  have given : attached? "--log-level" ("--log-level=" ++ level) = some level :=
    attached?_self "--log-level" level
  simp only [List.mem_cons, List.not_mem_nil, or_false, not_or] at other
  simp only [readSingle, other, if_false, attached?_level, given]

/-! ### Reading -/

/-- What is neither the end of the options nor the name of one with a value stands alone. -/
theorem readFrom_lone {options : Options} {argument : String} {grown : Option Options}
    (lone : argument ∉ ["--", "--config", "--log-level"])
    (single : readSingle options argument = grown.map .inr) (rest : List String) :
    readFrom options (argument :: rest) = grown.bind fun options => readFrom options rest := by
  simp only [List.mem_cons, List.not_mem_nil, or_false, not_or] at lone
  rw [readFrom.eq_def]
  simp only [lone, if_false, decide_false, Bool.or_self, Bool.false_eq_true, single]
  cases grown <;> rfl

/-- The name of an option with a value takes the argument behind it. -/
theorem readFrom_valued {name : String} (valued : name ∈ ["--config", "--log-level"])
    (options : Options) (value : String) (rest : List String) :
    readFrom options (name :: value :: rest) =
      if isValue value then
        (if name = "--config" then withConfig options value else withLevel options value).bind
          fun options => readFrom options rest
      else none := by
  rw [readFrom.eq_def]
  simp only [List.mem_cons, List.not_mem_nil, or_false] at valued
  rcases valued with rfl | rfl <;> cases fits : isValue value <;> simp [fits]

theorem readFrom_spelled {name : String} (valued : name ∈ ["--config", "--log-level"])
    (options : Options) (value : String) (attached : Bool) (rest : List String) :
    readFrom options (Item.spelled name value attached ++ rest) =
      if attached || isValue value then
        (if name = "--config" then withConfig options value else withLevel options value).bind
          fun options => readFrom options rest
      else none := by
  cases attached with
  | false => exact readFrom_valued valued options value rest
  | true =>
    simp only [List.mem_cons, List.not_mem_nil, or_false] at valued
    rcases valued with rfl | rfl
    · exact readFrom_lone (append_not_mem (by decide) value) (readSingle_config options value) rest
    · exact readFrom_lone (append_not_mem (by decide) value) (readSingle_level options value) rest

/-- No option of this kind has been given yet. -/
def Item.Free (options : Options) : Item → Prop
  | .config _ _ => options.config = none
  | .logLevel _ _ => options.logLevel = none
  | .noColor => options.noColor = false

theorem readFrom_item {options : Options} {item : Item} (free : item.Free options)
    (rest : List String) :
    readFrom options (item.arguments ++ rest) =
      if item.fits then readFrom (options.with [item]) rest else none := by
  obtain ⟨config, logLevel, noColor⟩ := options
  cases item with
  | config path attached =>
    cases (show config = none from free)
    rw [Item.arguments, readFrom_spelled (by decide), Item.fits]
    cases empty : path.isEmpty <;>
      simp [withConfig, empty, Options.with, Item.path?, Item.level?]
  | logLevel level attached =>
    cases (show logLevel = none from free)
    rw [Item.arguments, readFrom_spelled (by decide), Item.fits]
    simp [withLevel, Options.with, Item.path?, Item.level?]
  | noColor =>
    cases (show noColor = false from free)
    have single : readSingle ⟨config, logLevel, false⟩ "--no-color" =
        (some ⟨config, logLevel, true⟩).map .inr := by rfl
    rw [Item.arguments, List.singleton_append, readFrom_lone (by decide) single]
    simp [Options.with, Item.path?, Item.level?, Item.fits]

/-- Other options stay as they are. -/
theorem Item.Free.with {options : Options} {item other : Item} (free : other.Free options)
    (differs : item.name ≠ other.name) : other.Free (options.with [item]) := by
  obtain ⟨config, logLevel, noColor⟩ := options
  cases item <;> cases other <;>
    simp_all [Item.Free, Item.name, Options.with, Item.path?, Item.level?]

theorem with_with (options : Options) (item : Item) (items : List Item) :
    (options.with [item]).with items = options.with (item :: items) := by
  obtain ⟨config, logLevel, noColor⟩ := options
  cases item <;> simp [Options.with, List.findSome?_cons, Item.path?, Item.level?]

/-- Arguments are read option by option as long as the values fit. -/
theorem readFrom_items {items : List Item} (distinct : (items.map Item.name).Nodup)
    {options : Options} (free : ∀ item ∈ items, item.Free options) :
    readFrom options (items.flatMap Item.arguments) =
      if items.all Item.fits then some (.generate (options.with items)) else none := by
  induction items generalizing options with
  | nil => simp [readFrom, Options.with]
  | cons item items ih =>
    obtain ⟨distant, distinct⟩ := List.nodup_cons.1 distinct
    have free' : ∀ other ∈ items, other.Free (options.with [item]) := by
      intro other member
      apply (free other (List.mem_cons_of_mem _ member)).with
      exact fun same => distant (same ▸ List.mem_map_of_mem member)
    rw [List.flatMap_cons, readFrom_item (free item List.mem_cons_self), ih distinct free', with_with,
      List.all_cons]
    cases item.fits <;> simp

/-- Options that are given once are understood exactly if all of their values fit. -/
theorem read_items {items : List Item} (distinct : (items.map Item.name).Nodup) :
    read (items.flatMap Item.arguments) =
      if items.all Item.fits then some (.generate (optionsOf items)) else none := by
  apply readFrom_items distinct
  intro item _
  cases item <;> rfl

end ReqlLua.CommandLine
