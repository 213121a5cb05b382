import ReqlLua.Settings.Layer

/-! Settings from the values of layers. Scalars are converted to what a setting has to be. -/

namespace ReqlLua

/-- Numbers as texts have the fewest digits that tell them, a half going up, and no exponent. -/
def Scalar.numberStyle : NumberStyle := ⟨.up, none, none, ""⟩

/-- In messages whole numbers have a zero behind the point. -/
def Scalar.messageStyle : NumberStyle := { Scalar.numberStyle with wholeEnding := ".0" }

def Scalar.kind : Scalar → Kind
  | .unit => .unit
  | .boolean value => .boolean value
  | .integer value => .integer value
  | .number value => .number (Scalar.messageStyle.text value)
  | .string text => .string text

namespace Node

def kind : Node → Kind
  | .scalar _ value => value.kind
  | .list _ _ => .list
  | .table _ _ => .table

def origin : Node → Option String
  | .scalar origin _ | .list origin _ | .table origin _ => origin

def refuse (node : Node) (key : String) (wanted : Wanted) : SettingsFault :=
  .wrongKind node.kind wanted (some key) node.origin

def toText (key : String) (node : Node) : Except SettingsFault String :=
  match node with
  | .scalar _ (.string text) => .ok text
  | .scalar _ (.boolean value) => .ok (if value then "true" else "false")
  | .scalar _ (.integer value) => .ok (toString value)
  | .scalar _ (.number value) => .ok (Scalar.numberStyle.text value)
  | other => .error (other.refuse key .string)

/-- The words for one and for zero, in any case. -/
def wordValue? (text : String) : Option Nat :=
  let word := Text.lowercase text
  if word = "true" || word = "on" || word = "yes" then some 1
  else if word = "false" || word = "off" || word = "no" then some 0
  else none

def toWidth (key : String) (node : Node) : Except SettingsFault Nat :=
  match node with
  | .scalar _ (.integer value) =>
    if 0 ≤ value then .ok value.toNat else .error (node.refuse key .natural)
  | .scalar _ (.number value) => .ok value.toWord
  | .scalar _ (.boolean value) => .ok (if value then 1 else 0)
  | .scalar _ (.string text) =>
    match (wordValue? text).or (Text.unsigned? text) with
    | some value => .ok value
    | none => .error (node.refuse key .integer)
  | other => .error (other.refuse key .integer)

/-- The texts of a list, the first of which stands at `index`. -/
def toTexts (key : String) (index : Nat) : List Node → Except SettingsFault (List String)
  | [] => .ok []
  | node :: rest => do
    let text ← node.toText (key ++ "[" ++ toString index ++ "]")
    let texts ← toTexts key (index + 1) rest
    return text :: texts

def toList (key : String) : Node → Except SettingsFault (List String)
  | .list _ items => toTexts key 0 items
  | other => .error (.wrongKind other.kind .list none none)

end Node

namespace Layers

def node (layers : Layers) (key : String) : Node := (layers.lookup key).getD .unit

/-- The settings that the layers amount to. -/
def toSettings (layers : Layers) : Except SettingsFault Settings := do
  let protodef ← (layers.node "protodef").toText "protodef"
  let srcDir ← (layers.node "src_dir").toText "src_dir"
  let templates ← (layers.node "templates").toList "templates"
  let wrapWidth ← (layers.node "wrap_width").toWidth "wrap_width"
  Settings.validate ⟨protodef, srcDir, templates, wrapWidth⟩

end Layers

end ReqlLua
