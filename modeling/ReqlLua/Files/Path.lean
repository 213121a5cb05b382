/-! Paths of files, written as texts with slashes between the components. -/

namespace ReqlLua.Path

def isAbsolute (path : String) : Bool := path.toList.head? == some '/'

/-- `name` inside `directory`; an absolute name stands for itself. -/
def join (directory name : String) : String :=
  if isAbsolute name || directory.isEmpty then name
  else if directory.toList.getLast? == some '/' then directory ++ name
  else directory ++ "/" ++ name

/-- The components of a path. A slash at the end leaves an empty component behind it. -/
def components (path : String) : List String :=
  (path.toList.splitOn '/').map String.ofList

/-- The components that lead somewhere: none is empty or stands for the directory it is in. -/
def steps (path : String) : List String :=
  (components path).filter fun component => component ≠ "" && component ≠ "."

/-- The components by which paths are compared: the steps, and a point that starts the path. -/
def comparable (path : String) : List String :=
  if (components path).head? = some "." then "." :: steps path else steps path

/-- Whether two paths are written alike, up to slashes and points that lead nowhere. -/
def alike (first second : String) : Bool :=
  isAbsolute first == isAbsolute second && comparable first == comparable second

/-- The name at the end of a path, unless the path leads upwards at its end. -/
def name? (path : String) : Option String := (steps path).getLast?.filter (· ≠ "..")

/-- What follows the last point in a name, unless the point comes first. -/
def extension? (name : String) : Option String :=
  let parts := name.toList.splitOn '.'
  if parts.length < 2 || parts.dropLast == [[]] then none else parts.getLast?.map String.ofList

/-- The path with a suffix to its name, if it has one. -/
def addToName? (path suffix : String) : Option String :=
  (name? path).map fun _ =>
    (if isAbsolute path then "/" else "") ++ "/".intercalate (steps path) ++ suffix

def relativeSteps : List String → List String → List String
  | base :: bases, step :: steps =>
    if base = step then relativeSteps bases steps
    else (base :: bases).map (fun _ => "..") ++ step :: steps
  | bases, steps => bases.map (fun _ => "..") ++ steps

/-- The way from the directory `base` to a path. -/
def relativeTo (base path : String) : String :=
  "/".intercalate (relativeSteps (steps base) (steps (join base path)))

end ReqlLua.Path
