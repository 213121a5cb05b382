import Mathlib
import ReqlLua.Proofs.Settings.Accepted
import ReqlLua.Proofs.Settings.Loading
import ReqlLua.Proofs.Text.Lowercase

/-! Which document a setting is taken from. Among documents without tables the last one to assign a key
gives its value as it stands, and what the others assign to the key is not even looked at. -/

namespace ReqlLua

/-! ### Bare keys -/

namespace KeyPath

/-- The characters of bare keys in lower case. -/
def isBareChar (c : Char) : Bool := c.isLower || c.isDigit || c == '_' || c == '-'

theorem ascii_of_isBareChar {c : Char} (bare : isBareChar c = true) : c.toNat < 0x80 := by
  simp only [isBareChar, Bool.or_eq_true, beq_iff_eq] at bare
  rcases bare with ((lower | digit) | rfl) | rfl
  · exact Text.ascii_of_isLower lower
  · exact Text.ascii_of_isDigit digit
  · decide
  · decide

theorem bareChar {c : Char} (bare : isBareChar c = true) : c.toLower = c ∧ isNameChar c = true :=
  Text.forall_ascii (P := fun c => isBareChar c = true → c.toLower = c ∧ isNameChar c = true)
    (by decide) (ascii_of_isBareChar bare) bare

theorem lowercase_bare {key : String} (bare : ∀ c ∈ key.toList, isBareChar c = true) :
    Text.lowercase key = key := by
  have ascii : ∀ c ∈ key.toList, c.toNat < 0x80 := fun c member =>
    ascii_of_isBareChar (bare c member)
  have same : (Text.lowercase key).toList = key.toList := calc
    (Text.lowercase key).toList = key.toList.map Char.toLower := Text.lowercase_ascii ascii
    _ = key.toList.map id := List.map_congr_left fun c member => (bareChar (bare c member)).1
    _ = key.toList := List.map_id _
  exact String.toList_injective same

/-- A bare key leads to the value of its own name. -/
theorem ofText_bare {key : String} (bare : ∀ c ∈ key.toList, isBareChar c = true) :
    ofText key = ⟨key, []⟩ := by
  have named : ∀ c ∈ key.toList, isNameChar c = true := fun c member =>
    (bareChar (bare c member)).2
  have all : key.toList.takeWhile isNameChar = key.toList := List.takeWhile_eq_self_iff.2 named
  have none : key.toList.dropWhile isNameChar = [] := List.dropWhile_eq_nil_iff.2 named
  rw [ofText, read, readName, all, none, String.ofList_toList, lowercase_bare bare]
  by_cases empty : key.toList.isEmpty = true
  · rw [if_pos empty]
    rfl
  · rw [if_neg empty]
    rfl

end KeyPath

/-! ### Values by key -/

theorem Node.lookup_put (name other : String) (node : Node) (entries : List (String × Node)) :
    (put name node entries).lookup other =
      if other = name then some node else entries.lookup other := by
  induction entries with
  | nil =>
    rw [put, List.lookup_cons, List.lookup_nil]
    by_cases same : other = name
    · rw [same, beq_self_eq_true, if_pos rfl]
    · rw [beq_false_of_ne same, if_neg same]
  | cons entry rest ih =>
    rw [put, List.lookup_cons]
    by_cases here : entry.1 = name
    · rw [if_pos here, List.lookup_cons, here]
      by_cases same : other = name
      · rw [same, beq_self_eq_true, if_pos rfl]
      · rw [beq_false_of_ne same, if_neg same]
    · rw [if_neg here, List.lookup_cons, ih]
      by_cases same : other = name
      · rw [if_pos same, if_pos same, same, beq_false_of_ne (Ne.symm here)]
      · rw [if_neg same, if_neg same]

def Toml.Value.isTable : Toml.Value → Bool
  | .table _ => true
  | _ => false

/-- Whatever is there gives way to anything but a table. -/
theorem Node.lay_ofValue {value : Toml.Value} (noTable : value.isTable = false)
    (origin : Option String) (existing : Option Node) :
    lay existing (ofValue origin value) = ofValue origin value := by
  cases value with
  | table entries => cases noTable
  | _ => rfl

/-- Assignments of scalars and lists to bare keys in lower case. -/
structure Toml.Document.Flat (document : Toml.Document) : Prop where
  keys : ∀ entry ∈ document, entry.1.toList.all KeyPath.isBareChar = true
  values : ∀ entry ∈ document, entry.2.isTable = false

/-- What a document assigns to a key. -/
def Toml.Document.assigned? (document : Toml.Document) (key : String) : Option Toml.Value :=
  document.reverse.lookup key

theorem Toml.Document.assigned?_cons (entry : String × Toml.Value) (rest : Toml.Document)
    (key : String) :
    assigned? (entry :: rest) key =
      (assigned? rest key).or (if key = entry.1 then some entry.2 else none) := by
  rw [assigned?, List.reverse_cons, List.lookup_append, List.lookup_cons, List.lookup_nil]
  by_cases same : key = entry.1
  · rw [same, beq_self_eq_true, if_pos rfl]
    rfl
  · rw [beq_false_of_ne same, if_neg same]
    rfl

namespace Layers

open Toml.Document (Flat assigned? assigned?_cons)

theorem lookup_layEntry {key : String} (bare : ∀ c ∈ key.toList, KeyPath.isBareChar c = true)
    {value : Toml.Value} (noTable : value.isTable = false) (origin : Option String)
    (layers : Layers) (other : String) :
    (layers.layEntry key (.ofValue origin value)).lookup other =
      if other = key then some (.ofValue origin value) else layers.lookup other := by
  rw [layEntry, KeyPath.ofText_bare bare]
  dsimp only
  rw [Node.layAt, Node.lay_ofValue noTable, Node.lookup_put]

theorem lookup_layDocument {document : Toml.Document} (flat : Flat document) (layers : Layers)
    (origin : Option String) (key : String) :
    (layers.layDocument origin document).lookup key =
      ((assigned? document key).map (Node.ofValue origin)).or (layers.lookup key) := by
  induction document generalizing layers with
  | nil => rfl
  | cons entry rest ih =>
    have flat' : Flat rest :=
      ⟨fun other member => flat.keys other (List.mem_cons_of_mem _ member),
        fun other member => flat.values other (List.mem_cons_of_mem _ member)⟩
    have laid := lookup_layEntry (List.all_eq_true.1 (flat.keys entry List.mem_cons_self))
      (flat.values entry List.mem_cons_self) origin layers key
    change ((layers.layEntry entry.1 (.ofValue origin entry.2)).layDocument origin rest).lookup key = _
    rw [ih flat', laid, assigned?_cons]
    cases assigned? rest key with
    | some value => rfl
    | none =>
      by_cases same : key = entry.1
      · rw [if_pos same, if_pos same]
        rfl
      · rw [if_neg same, if_neg same]
        rfl

end Layers

namespace Settings

variable {home : Location}

/-! ### Documents over the defaults -/

/-- The document in a settings file, with the name that messages give the file. -/
def Holds (tree : FileTree home) (directory path : String) (source : String × Toml.Document) : Prop :=
  ∃ text, fileText tree directory path = .ok (source.1, text) ∧
    Toml.Document.ofText? text = some source.2

/-- The document of the local file, if the file is there. -/
inductive LocalSource (tree : FileTree home) (directory : String) : List (String × Toml.Document) → Prop where
  | missing {fault : SettingsFault} (unread : fileText tree directory localFile = .error fault) :
      LocalSource tree directory []
  | found {source : String × Toml.Document} (held : Holds tree directory localFile source) :
      LocalSource tree directory [source]

/-- The document of the file that is asked for, if one is. -/
inductive AskedSource (tree : FileTree home) (directory : String) :
    Option String → List (String × Toml.Document) → Prop where
  | nothing : AskedSource tree directory none []
  | found {path : String} {source : String × Toml.Document} (held : Holds tree directory path source) :
      AskedSource tree directory (some path) [source]

/-- The layers of documents over the defaults, the lower ones first. -/
def layAll (layers : Layers) (sources : List (String × Toml.Document)) : Layers :=
  sources.foldl (fun layers source => layers.layDocument (some source.1) source.2) layers

theorem layAll_append (layers : Layers) (below above : List (String × Toml.Document)) :
    layAll layers (below ++ above) = layAll (layAll layers below) above :=
  List.foldl_append

/-- The value of a key in the last document that assigns one. -/
def lastAssigned? (sources : List (String × Toml.Document)) (key : String) : Option Node :=
  sources.reverse.findSome? fun source =>
    (Toml.Document.assigned? source.2 key).map (Node.ofValue (some source.1))

/-- The value that a key is taken to have: the last that is assigned, or the default. -/
def taken (sources : List (String × Toml.Document)) (key : String) : Node :=
  (lastAssigned? sources key).getD (Layers.base.node key)

theorem lookup_layAll {sources : List (String × Toml.Document)}
    (flat : ∀ source ∈ sources, Toml.Document.Flat source.2) (layers : Layers) (key : String) :
    (layAll layers sources).lookup key = (lastAssigned? sources key).or (layers.lookup key) := by
  induction sources generalizing layers with
  | nil => rfl
  | cons source rest ih =>
    have flat' : ∀ source ∈ rest, Toml.Document.Flat source.2 := fun other member =>
      flat other (List.mem_cons_of_mem _ member)
    have laid := Layers.lookup_layDocument (flat source List.mem_cons_self) layers
      (some source.1) key
    rw [layAll, List.foldl_cons]
    refine (ih flat' _).trans ?_
    rw [laid, lastAssigned?, lastAssigned?, List.reverse_cons, List.findSome?_append,
      List.findSome?_singleton, Option.or_assoc]

theorem node_layAll {sources : List (String × Toml.Document)}
    (flat : ∀ source ∈ sources, Toml.Document.Flat source.2) :
    (layAll Layers.base sources).node = taken sources := by
  funext key
  rw [Layers.node, lookup_layAll flat, taken, Layers.node, Option.getD_or]

variable {tree : FileTree home} {directory : String} {asked : Option String}
  {below above : List (String × Toml.Document)}

theorem result_layLocal_source (lower : LocalSource tree directory below) :
    ((layLocal directory).runOn tree).result = .ok (layAll Layers.base below) := by
  rw [result_layLocal]
  cases lower with
  | missing unread => rw [unread]; rfl
  | found held =>
    obtain ⟨text, read, parsed⟩ := held
    rw [read]
    simp only [layText, parsed]
    rfl

theorem result_layAsked_source (upper : AskedSource tree directory asked above) (layers : Layers) :
    ((layAsked directory asked layers).runOn tree).result = .ok (layAll layers above) := by
  cases upper with
  | nothing => rfl
  | found held =>
    obtain ⟨text, read, parsed⟩ := held
    rw [result_layAsked, read]
    simp only [layText, parsed]
    rfl

theorem on_load_sources (lower : LocalSource tree directory below)
    (upper : AskedSource tree directory asked above) :
    Attempt.on (load directory asked) tree =
      ((layAll Layers.base (below ++ above)).toSettings.mapError .settings, tree) := by
  rw [on_load, result_layLocal_source lower]
  change (Except.mapError _ (((layAsked directory asked _).runOn tree).result >>= _), tree) = _
  rw [result_layAsked_source upper, layAll_append]
  rfl

/-- Each of the four settings is converted from the value that the last document to assign one gives it, and
from the default if none does. Nothing else in the documents counts, and only what the four values amount to
is validated. -/
theorem load_takes_last (lower : LocalSource tree directory below)
    (upper : AskedSource tree directory asked above)
    (flat : ∀ source ∈ below ++ above, Toml.Document.Flat source.2) :
    Attempt.on (load directory asked) tree =
        ((ofNodes (taken (below ++ above))).mapError .settings, tree) ∧
      ∀ settings, Attempt.on (load directory asked) tree = (.ok settings, tree) ↔
        (taken (below ++ above) "protodef").toText "protodef" = .ok settings.protodef ∧
        (taken (below ++ above) "src_dir").toText "src_dir" = .ok settings.srcDir ∧
        (taken (below ++ above) "templates").toList "templates" = .ok settings.templates ∧
        (taken (below ++ above) "wrap_width").toWidth "wrap_width" = .ok settings.wrapWidth ∧
        settings.Valid := by
  have loaded : Attempt.on (load directory asked) tree =
      ((ofNodes (taken (below ++ above))).mapError .settings, tree) := by
    rw [on_load_sources lower upper, toSettings_eq, node_layAll flat]
  refine ⟨loaded, fun settings => ?_⟩
  rw [loaded, ← ofNodes_ok_iff]
  cases ofNodes (taken (below ++ above)) with
  | error fault =>
    constructor
    · intro same
      cases congrArg Prod.fst same
    · intro same
      cases same
  | ok found =>
    constructor
    · intro same
      cases same
      rfl
    · intro same
      cases same
      rfl

/-- Values of the wrong kind, or of the right kind and not valid. -/
def lowerText : String := "src_dir = [true]\ntemplates = []\nwrap_width = \"wide\"\n"

def upperText : String :=
  "templates = [\"a\", \"b\"]\nsrc_dir = \"src\"\nwrap_width = \"100\"\nextra = true\n"

def layeredTree : FileTree ["work"] :=
  ⟨.ofList [(["work"], .directory), (["work", localFile], .file lowerText.toUTF8),
    (["work", "codegen.toml"], .file upperText.toUTF8)]⟩

/-- Nothing is left of the lower document. -/
theorem load_takes_last_layeredTree :
    let lower : Toml.Document :=
      [("src_dir", .array [.boolean true]), ("templates", .array []), ("wrap_width", .string "wide")]
    let upper : Toml.Document :=
      [("templates", .array [.string "a", .string "b"]), ("src_dir", .string "src"),
        ("wrap_width", .string "100"), ("extra", .boolean true)]
    LocalSource layeredTree "/work" [("reql-codegen.toml", lower)] ∧
      AskedSource layeredTree "/work" (some "codegen.toml") [("codegen.toml", upper)] ∧
      (∀ source ∈ [("reql-codegen.toml", lower), ("codegen.toml", upper)],
        Toml.Document.Flat source.2) ∧
      Attempt.on (load "/work" (some "codegen.toml")) layeredTree =
        (.ok ⟨"proto/reql_protodef.json", "src", ["a", "b"], 100⟩, layeredTree) := by
  intro lower upper
  have lowerRead : fileText layeredTree "/work" localFile = .ok ("reql-codegen.toml", lowerText) :=
    fileText_of_read (by decide) (by rfl)
  have upperRead : fileText layeredTree "/work" "codegen.toml" = .ok ("codegen.toml", upperText) :=
    fileText_of_read (by decide) (by rfl)
  have below : LocalSource layeredTree "/work" [("reql-codegen.toml", lower)] :=
    .found ⟨lowerText, lowerRead, by cbv⟩
  have above : AskedSource layeredTree "/work" (some "codegen.toml") [("codegen.toml", upper)] :=
    .found ⟨upperText, upperRead, by cbv⟩
  have flat : ∀ source ∈ [("reql-codegen.toml", lower), ("codegen.toml", upper)],
      Toml.Document.Flat source.2 := by
    intro source member
    rcases List.mem_cons.1 member with rfl | member
    · exact ⟨by decide, by decide⟩
    · cases List.mem_singleton.1 member
      exact ⟨by decide, by decide⟩
  have valid : Settings.Valid ⟨"proto/reql_protodef.json", "src", ["a", "b"], 100⟩ :=
    ⟨by decide, by decide, by decide⟩
  refine ⟨below, above, flat, ?_⟩
  exact ((load_takes_last below above flat).2 _).2 ⟨rfl, rfl, rfl, rfl, valid⟩

end Settings

end ReqlLua
