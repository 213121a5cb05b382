import ReqlLua.Binding.MethodName
import ReqlLua.Files.Tree
import ReqlLua.Json.Fault
import ReqlLua.Settings.Basic
import ReqlLua.Substitution

/-! Everything that makes a run fail, with the words it is reported in. -/

namespace ReqlLua

inductive Failure where
  | document (path : Option String) (complaint : Json.Complaint)
  | catalog (fault : CatalogFault)
  | naming (fault : NamingFault)
  | unresolved (marker : Unresolved)
  | file (path : String) (fault : FileFault)
  | settings (fault : SettingsFault)
deriving DecidableEq

namespace Failure

def definitionMessage (reason : String) : String := "Protocol definition error: " ++ reason

def message : Failure → String
  | .document none complaint => definitionMessage complaint.message
  | .document (some path) complaint => definitionMessage (path ++ ": " ++ complaint.message)
  | .catalog (.badIdentifier name) =>
    definitionMessage ("invalid term identifier '" ++ name ++ "'")
  | .catalog (.sharedTag tag first second) =>
    "Duplicate term tag " ++ toString tag.toInt ++ ": " ++ first ++ " and " ++ second
  | .naming (.emptyName identifier) =>
    definitionMessage ("term " ++ identifier ++ " resolves to an empty method name")
  | .naming (.sharedName name first second) =>
    "Method name '" ++ name ++ "' generated for both " ++ first ++ " and " ++ second
  | .unresolved marker =>
    "Unresolved placeholder '" ++ marker.key ++ "' at byte " ++ toString marker.offset
  | .file path fault => "I/O error on " ++ path ++ ": " ++ fault.message
  | .settings fault => "Configuration error: " ++ fault.message

end Failure

end ReqlLua
