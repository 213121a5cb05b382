import ReqlLua.CommandLine

/-! The program: carries its job out on the files of the machine. -/

namespace ReqlLua.Main

/-- The number and the words that the system gives to an error. -/
def systemError? : IO.Error → Option (UInt32 × String)
  | .otherError code text | .resourceBusy code text | .resourceVanished code text
  | .unsupportedOperation code text | .hardwareFault code text
  | .unsatisfiedConstraints code text | .illegalOperation code text | .protocolError code text
  | .timeExpired code text => some (code, text)
  | .interrupted _ code text | .noFileOrDirectory _ code text => some (code, text)
  | .alreadyExists _ code text | .invalidArgument _ code text | .permissionDenied _ code text
  | .resourceExhausted _ code text | .inappropriateType _ code text
  | .noSuchThing _ code text => some (code, text)
  | .unexpectedEof | .userError _ => none

/-- Some operations negate the number. -/
def errorNumber (code : UInt32) : Nat := code.toInt32.toInt.natAbs

def fault (error : IO.Error) : FileFault :=
  match systemError? error with
  | none => .other (toString error)
  | some (code, text) =>
    match errorNumber code with
    | 2 => .notFound
    | 16 => .busy
    | 20 => .notDirectory
    | 21 => .isDirectory
    | 36 => .nameTooLong
    | number => .other (text.capitalize ++ " (os error " ++ toString number ++ ")")

/-- The answer of an operation on the file that a path names. -/
def attempt {α : Type} (path : String) (operation : IO α) : IO (Except FileFault α) := do
  if path.toList.contains (Char.ofNat 0) then return .error .nulInName
  return (← operation.toBaseIO).mapError fault

/-- Carries a job out. What it reports is shown at once. -/
def carryOut {α : Type} (showNote : Note → IO Unit) : Job α → IO α
  | .done result => return result
  | .note entry next => do
    showNote entry
    carryOut showNote next
  | .isFile path next => do
    let contents ← attempt path (IO.FS.readBinFile path)
    carryOut showNote (next contents.toOption.isSome)
  | .read path next => do
    let contents ← attempt path (IO.FS.readBinFile path)
    carryOut showNote (next contents)
  | .write path contents next => do
    let written ← attempt path (IO.FS.writeBinFile path contents)
    carryOut showNote (next written)
  | .rename source target next => do
    let renamed ← attempt target (IO.FS.rename source target)
    carryOut showNote (next renamed)
  | .remove path next => do
    let removed ← attempt path (IO.FS.removeFile path)
    carryOut showNote (next removed)

/-- The working directory, which has no name if it is gone. -/
def workingDirectory : IO String := do
  match ← IO.currentDir.toBaseIO with
  | .ok directory => return toString directory
  | .error _ => return ""

end ReqlLua.Main

open ReqlLua in
def main (arguments : List String) : IO UInt32 := do
  let directory ← Main.workingDirectory
  let showNote := fun note =>
    (CommandLine.logLine? arguments note).forM fun line => IO.eprintln line
  let outcome ← Main.carryOut showNote (CommandLine.answer directory arguments)
  IO.print outcome.output
  IO.eprint outcome.errors
  return outcome.code.toUInt32
