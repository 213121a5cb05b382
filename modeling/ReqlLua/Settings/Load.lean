import ReqlLua.Settings.Conversion
import ReqlLua.Attempt
import ReqlLua.Toml.Document

/-! Finding the settings of a run. A file in the working directory, if there is one, is laid over the
defaults, and a file that is asked for over both. -/

namespace ReqlLua.Settings

/-- The name of the settings file that is looked for in the working directory. -/
def localFile : String := "reql-codegen.toml"

/-- The one file name extension of settings files. -/
def fileExtension : String := "toml"

/-- Lays the text of a document over the layers. -/
def layText (layers : Layers) (origin : Option String) (text : String) :
    Except SettingsFault Layers :=
  match Toml.Document.ofText? text with
  | some document => .ok (layers.layDocument origin document)
  | none => .error .notToml

/-- The settings of a single document over the defaults. -/
def ofToml (text : String) : Except SettingsFault Settings := do
  (← layText Layers.base none text).toSettings

/-- The file of a path: the path itself, or the path with the extension added. A file of another
extension is no settings file. -/
def findFile (directory path : String) : Job (Except SettingsFault String) := do
  if ← Job.asksFile path then
    if (Path.name? path).bind Path.extension? = some fileExtension then return .ok path
    else return .error (.unknownFormat (Path.join directory path))
  else
    match Path.addToName? path ("." ++ fileExtension) with
    | none => return .error (.missingFile path)
    | some other =>
      if ← Job.asksFile other then return .ok other else return .error (.missingFile path)

/-- The text of a settings file and the name that messages give the file. -/
def readFile (directory path : String) : Job (Except SettingsFault (String × String)) := do
  match ← findFile directory path with
  | .error fault => return .error fault
  | .ok file =>
    match ← Job.readsText file with
    | .error fault => return .error (.unreadable fault.message)
    | .ok text => return .ok (Path.relativeTo directory file, text)

/-- The layers with the local file, which counts only if it can be read. -/
def layLocal (directory : String) : Job (Except SettingsFault Layers) := do
  match ← readFile directory localFile with
  | .error _ => return .ok Layers.base
  | .ok (origin, text) => return layText Layers.base (some origin) text

/-- The layers with the file that is asked for, if one is. -/
def layAsked (directory : String) (asked : Option String) (layers : Layers) :
    Job (Except SettingsFault Layers) := do
  match asked with
  | none => return .ok layers
  | some path =>
    match ← readFile directory path with
    | .error fault => return .error fault
    | .ok (origin, text) => return layText layers (some origin) text

/-- The settings of a run in the working directory. -/
def load (directory : String) (asked : Option String) : Attempt Settings := do
  let below ← Attempt.orFail .settings (layLocal directory)
  let layers ← Attempt.orFail .settings (layAsked directory asked below)
  Attempt.ofExcept .settings layers.toSettings

end ReqlLua.Settings
