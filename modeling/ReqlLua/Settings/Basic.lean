import ReqlLua.Files.Path
import ReqlLua.Json.Quoted

/-! The settings of a run, and what makes them valid. -/

namespace ReqlLua

structure Settings where
  /-- The path of the protocol definition. -/
  protodef : String
  /-- The directory of the templates and of the sources made from them. -/
  srcDir : String
  templates : List String
  wrapWidth : Nat
deriving DecidableEq

/-- What a value in a settings file is. -/
inductive Kind where
  | unit
  | boolean (value : Bool)
  | integer (value : Int)
  | number (text : String)
  | string (text : String)
  | list
  | table
deriving DecidableEq

/-- What a setting has to be. -/
inductive Wanted where
  | string
  | list
  | integer
  | natural
deriving DecidableEq

inductive SettingsFault where
  | notToml
  | wrongKind (kind : Kind) (wanted : Wanted) (key origin : Option String)
  | noTemplates
  | badTemplate (name : String)
  | tooNarrow (width : Nat)
  | missingFile (path : String)
  | unknownFormat (path : String)
  | unreadable (description : String)
deriving DecidableEq

def Kind.text : Kind → Wanted → String
  | .unit, _ => "unit value"
  | .boolean value, _ => "boolean `" ++ (if value then "true" else "false") ++ "`"
  | .integer value, .natural => "64-bit integer `" ++ toString value ++ "`"
  | .integer value, _ => "integer `" ++ toString value ++ "`"
  | .number text, _ => "floating point `" ++ text ++ "`"
  | .string text, _ => "string " ++ Text.quoted text
  | .list, _ => "sequence"
  | .table, _ => "map"

def Wanted.text : Wanted → String
  | .string => "a string"
  | .list => "a sequence"
  | .integer => "an integer"
  | .natural => "an unsigned 64 bit or less integer"

namespace Settings

def default : Settings := ⟨"proto/reql_protodef.json", "lua", ["rethinkdb"], 77⟩

/-- The least width at which a declaration of one letter fits on a line. -/
def leastWidth : Nat := 8

/-- A template is named by a file name, not by a path. -/
def isTemplateName (name : String) : Bool :=
  !name.isEmpty && !name.toList.contains '/' && !name.toList.contains '\\'

/-- The settings themselves, if they are valid. -/
def validate (settings : Settings) : Except SettingsFault Settings :=
  if settings.templates.isEmpty then .error .noTemplates
  else
    match settings.templates.find? fun name => !isTemplateName name with
    | some name => .error (.badTemplate name)
    | none =>
      if settings.wrapWidth < leastWidth then .error (.tooNarrow settings.wrapWidth)
      else .ok settings

def templatePath (settings : Settings) (name : String) : String :=
  Path.join settings.srcDir (name ++ ".pre.lua")

def outputPath (settings : Settings) (name : String) : String :=
  Path.join settings.srcDir (name ++ ".lua")

/-- Whether two settings agree, their paths compared by components. -/
def alike (first second : Settings) : Bool :=
  Path.alike first.protodef second.protodef && Path.alike first.srcDir second.srcDir &&
    first.templates == second.templates && first.wrapWidth == second.wrapWidth

/-- The settings as a JSON object without any space. -/
def json (settings : Settings) : String :=
  "\x7b\"protodef\":" ++ Json.quoted settings.protodef ++ ",\"src_dir\":" ++
    Json.quoted settings.srcDir ++ ",\"templates\":[" ++
    ",".intercalate (settings.templates.map Json.quoted) ++ "],\"wrap_width\":" ++
    toString settings.wrapWidth ++ "\x7d"

end Settings

def SettingsFault.message : SettingsFault → String
  | .notToml => "TOML parse error"
  | .wrongKind kind wanted key origin =>
    "invalid type: " ++ kind.text wanted ++ ", expected " ++ wanted.text ++
      (match key with
        | some key => " for key `" ++ key ++ "`"
        | none => "") ++
      (match origin with
        | some origin => " in " ++ origin
        | none => "")
  | .noTemplates => "no templates configured"
  | .badTemplate name => "invalid template name '" ++ name ++ "'"
  | .tooNarrow width =>
    "wrap_width must be at least " ++ toString Settings.leastWidth ++ ", got " ++ toString width
  | .missingFile path => "configuration file \"" ++ path ++ "\" not found"
  | .unknownFormat path =>
    "configuration file \"" ++ path ++ "\" is not of a registered file format"
  | .unreadable description => description

end ReqlLua
