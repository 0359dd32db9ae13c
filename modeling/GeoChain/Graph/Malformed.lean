import GeoChain.Json.Basic

/-!
# Malformed graphs

Why a JSON value is no process graph, or why a graph is refused before its processes are looked
at. The wording of every cause is in one place.
-/

namespace GeoChain

namespace Json

/-- The kind of a value, with its article. -/
def kindText : Json → String
  | null => "null"
  | bool _ => "a boolean"
  | int _ | float _ => "a number"
  | string _ => "a string"
  | array _ => "an array"
  | object _ => "an object"

end Json

inductive Malformed where
  | empty
  | notNode (found : Json)
  | idNotText (found : Json)
  | idMissing
  | idInvalid (text : String)
  | argumentsNotObject (key process : String) (found : Json)
  | tooDeep (limit : Nat)
  | stated (message : String)
deriving DecidableEq

def Malformed.message : Malformed → String
  | .empty => "process graph is empty"
  | .notNode found => "expected a process graph node, found " ++ found.kindText
  | .idNotText found => "process_id must be a string, found " ++ found.kindText
  | .idMissing => "node has no process_id"
  | .idInvalid text => "invalid process id '" ++ text ++ "': expected [A-Za-z0-9_]+"
  | .argumentsNotObject key process found =>
    "'" ++ key ++ "' of process '" ++ process ++ "' must be an object, found " ++ found.kindText
  | .tooDeep limit => "process graph exceeds the maximum depth of " ++ toString limit
  | .stated message => message

end GeoChain
