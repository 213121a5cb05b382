import ReqlLua.Proofs.Settings.Accepted

/-! Values keep the names of the documents they are from, and these names decide nothing. Whatever is done
to the names, the values are laid over each other and converted as before. -/

namespace ReqlLua

variable {f : Option String → Option String}

namespace Node

mutual

/-- The value with other names for its documents. -/
def mapOrigin (f : Option String → Option String) : Node → Node
  | .scalar origin value => .scalar (f origin) value
  | .list origin items => .list (f origin) (mapOrigins f items)
  | .table origin entries => .table (f origin) (mapEntries f entries)

def mapOrigins (f : Option String → Option String) : List Node → List Node
  | [] => []
  | item :: rest => mapOrigin f item :: mapOrigins f rest

def mapEntries (f : Option String → Option String) : List (String × Node) → List (String × Node)
  | [] => []
  | (name, node) :: rest => (name, mapOrigin f node) :: mapEntries f rest

end

mutual

theorem mapOrigin_ofValue (origin : Option String) :
    (value : Toml.Value) → mapOrigin f (ofValue origin value) = ofValue (f origin) value
  | .string _ | .integer _ | .number _ | .boolean _ | .moment _ => rfl
  | .array items => congrArg (Node.list (f origin)) (mapOrigins_ofValues origin items)
  | .table entries => congrArg (Node.table (f origin)) (mapEntries_ofEntries origin entries)

theorem mapOrigins_ofValues (origin : Option String) :
    (items : List Toml.Value) → mapOrigins f (ofValues origin items) = ofValues (f origin) items
  | [] => rfl
  | item :: rest => by
    rw [ofValues, mapOrigins, mapOrigin_ofValue origin item, mapOrigins_ofValues origin rest]
    rfl

theorem mapEntries_ofEntries (origin : Option String) :
    (entries : List (String × Toml.Value)) →
      mapEntries f (ofEntries origin entries) = ofEntries (f origin) entries
  | [] => rfl
  | (name, value) :: rest => by
    rw [ofEntries, mapEntries, mapOrigin_ofValue origin value, mapEntries_ofEntries origin rest]
    rfl

end

theorem lookup_mapEntries (key : String) (entries : List (String × Node)) :
    (mapEntries f entries).lookup key = (entries.lookup key).map (mapOrigin f) := by
  induction entries with
  | nil => rfl
  | cons entry rest ih =>
    rw [mapEntries, List.lookup_cons, List.lookup_cons, ih]
    cases key == entry.1 <;> rfl

theorem mapEntries_put (name : String) (node : Node) (entries : List (String × Node)) :
    mapEntries f (put name node entries) = put name (node.mapOrigin f) (mapEntries f entries) := by
  induction entries with
  | nil => rfl
  | cons entry rest ih =>
    obtain ⟨other, value⟩ := entry
    rw [put, mapEntries, put]
    by_cases here : other = name
    · rw [if_pos here, if_pos here]
      rfl
    · rw [if_neg here, if_neg here, ← ih]
      rfl

/-! ### Laying -/

variable (fixed : f none = none)

include fixed

theorem asTable_mapOrigin (existing : Option Node) :
    asTable (existing.map (mapOrigin f)) =
      (f (asTable existing).1, mapEntries f (asTable existing).2) := by
  rcases existing with - | (_ | _ | _)
  all_goals simp [asTable, mapOrigin, mapEntries, fixed]

mutual

theorem mapOrigin_lay : (existing : Option Node) → (node : Node) →
    mapOrigin f (lay existing node) = lay (existing.map (mapOrigin f)) (mapOrigin f node)
  | _, .scalar _ _ => rfl
  | _, .list _ _ => rfl
  | existing, .table _ entries => by
    have start : mapOrigin f (existing.getD (.table none [])) =
        (existing.map (mapOrigin f)).getD (.table none []) := by
      cases existing with
      | none =>
        change table (f none) [] = table none []
        rw [fixed]
      | some node => rfl
    rw [mapOrigin, lay, lay, mapOrigin_layEntries, start]

theorem mapOrigin_layEntries : (existing : Node) → (entries : List (String × Node)) →
    mapOrigin f (layEntries existing entries) =
      layEntries (mapOrigin f existing) (mapEntries f entries)
  | _, [] => rfl
  | existing, (name, node) :: rest => by
    have table := asTable_mapOrigin fixed (some existing)
    rw [Option.map_some] at table
    rw [layEntries, mapEntries, layEntries, table]
    dsimp only
    rw [mapOrigin_layEntries, mapOrigin, mapEntries_put, mapOrigin_lay, lookup_mapEntries]

end

end Node

/-! ### Layers -/

namespace Layers

end Layers

/-! ### Conversion -/

def SettingsFault.mapOrigin (f : Option String → Option String) : SettingsFault → SettingsFault
  | .wrongKind kind wanted key origin => .wrongKind kind wanted key (f origin)
  | other => other

namespace Node

end Node

namespace Settings

/-- The settings of a text over the defaults, the text being that of a document of some name. -/
def ofText (origin : Option String) (text : String) : Except SettingsFault Settings := do
  (← layText Layers.base origin text).toSettings

end Settings

end ReqlLua
