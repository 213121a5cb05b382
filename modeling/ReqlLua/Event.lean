import ReqlLua.Text.Decimal
import ReqlLua.Text.Quoted

/-! What a run reports about its progress, and the lines that tell it. -/

namespace ReqlLua

/-- From the most to the least severe. -/
inductive Level where
  | error | warn | info | debug | trace
deriving DecidableEq

namespace Level

def rank : Level → Nat
  | .error => 1
  | .warn => 2
  | .info => 3
  | .debug => 4
  | .trace => 5

/-- Whether events of a level are shown where `limit` is the least severe one of interest. -/
def shownAt (level limit : Level) : Bool := level.rank ≤ limit.rank

def name : Level → String
  | .error => "ERROR"
  | .warn => "WARN"
  | .info => "INFO"
  | .debug => "DEBUG"
  | .trace => "TRACE"

def all : List Level := [.error, .warn, .info, .debug, .trace]

/-- A level is given by its name in any case or by its rank. -/
def ofText? (text : String) : Option Level :=
  all.find? fun level =>
    text.toList.map Char.toUpper == level.name.toList || Text.unsigned? text == some level.rank

end Level

inductive Event where
  | definitionLoaded (path : String)
  | catalogLoaded (terms skipped : Nat)
  | catalogEmpty
  | dualListed (identifier : String)
  | blocksGenerated (terms classesBytes methodsBytes namesBytes : Nat)
  | generatorReady (terms : Nat)
  | templateRead (name : String) (markers : Nat)
  | sourceWritten (path : String) (bytes : Nat)
  | sourceBuilt (path : String)
deriving DecidableEq

namespace Event

def level : Event → Level
  | .definitionLoaded _ | .generatorReady _ | .sourceWritten _ _ | .sourceBuilt _ => .info
  | .catalogLoaded _ _ | .dualListed _ | .blocksGenerated _ _ _ _ | .templateRead _ _ => .debug
  | .catalogEmpty => .warn

def message : Event → String
  | .definitionLoaded _ => "Loaded protocol definition"
  | .catalogLoaded _ _ => "Loaded term catalog"
  | .catalogEmpty => "Term catalog is empty; generated fragments will be blank"
  | .dualListed _ => "Options-tail and fixed-arity listed; using fixed-arity"
  | .blocksGenerated _ _ _ _ => "Generated fragments"
  | .generatorReady _ => "Generated AST fragments"
  | .templateRead _ _ => "Parsed template"
  | .sourceWritten _ _ => "Wrote generated source"
  | .sourceBuilt _ => "Built"

/-- Names are quoted; paths and counts are not. -/
def fields : Event → List (String × String)
  | .definitionLoaded path | .sourceBuilt path => [("path", path)]
  | .catalogLoaded terms skipped => [("terms", toString terms), ("skipped", toString skipped)]
  | .catalogEmpty => []
  | .dualListed identifier => [("term", Text.quoted identifier)]
  | .blocksGenerated terms classesBytes methodsBytes namesBytes =>
    [("terms", toString terms), ("classes_bytes", toString classesBytes),
     ("methods_bytes", toString methodsBytes), ("names_bytes", toString namesBytes)]
  | .generatorReady terms => [("terms", toString terms)]
  | .templateRead name markers =>
    [("template", Text.quoted name), ("markers", toString markers)]
  | .sourceWritten path bytes => [("path", path), ("bytes", toString bytes)]

end Event

/-- An event with the template, if any, that was being turned into a source at the time. -/
structure Note where
  scope : Option String
  event : Event
deriving DecidableEq

namespace Note

/-- Text in one of the terminal's styles. -/
def styled (style text : String) : String := "\x1b[" ++ style ++ "m" ++ text ++ "\x1b[0m"

def plainScope : Option String → String
  | none => ""
  | some name => "process\x7bname=" ++ Text.quoted name ++ "\x7d: "

/-- The line without colours. -/
def plain (note : Note) : String :=
  note.event.level.name ++ " " ++ plainScope note.scope ++ note.event.message ++
    String.join (note.event.fields.map fun field => " " ++ field.1 ++ "=" ++ field.2)

def levelStyle : Level → String
  | .error => "31"
  | .warn => "33"
  | .info => "32"
  | .debug => "34"
  | .trace => "35"

/-- Level names take up five columns. -/
def paddedName (level : Level) : String :=
  String.ofList (List.replicate (5 - level.name.length) ' ') ++ level.name

def coloredField (field : String × String) : String :=
  styled "3" field.1 ++ styled "2" "=" ++ field.2

def coloredScope : Option String → String
  | none => ""
  | some name =>
    styled "1" "process" ++ styled "1" "\x7b" ++ coloredField ("name", Text.quoted name) ++
      styled "1" "\x7d" ++ styled "2" ":" ++ " "

/-- The line as a terminal shows it. -/
def colored (note : Note) : String :=
  styled (levelStyle note.event.level) (paddedName note.event.level) ++ " " ++
    coloredScope note.scope ++ note.event.message ++
    String.join (note.event.fields.map fun field => " " ++ coloredField field)

end Note

end ReqlLua
