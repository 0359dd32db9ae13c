import GeoChain.Graph.ProcessId
import GeoChain.Json.Record

/-!
# Descriptions of processes

What clients are told about a process: its parameters in order, which of them are required, and
what it returns. A description that does not say what is returned means a raster cube.
-/

namespace GeoChain

structure Parameter where
  name : String
  description : String
  accepted : Json
  required : Bool
deriving DecidableEq

structure Returned where
  description : String
  accepted : Json
deriving DecidableEq

structure Description where
  id : ProcessId
  summary : Option String
  description : String
  parameters : List Parameter
  returned : Returned
deriving DecidableEq

/-- The schema of a raster cube. -/
def rasterCube : Json :=
  .object [("subtype", .string "raster-cube"), ("type", .string "object")]

namespace Parameter

def new (name description : String) (accepted : Json) (required : Bool) : Parameter :=
  ⟨name, description, accepted, required⟩

def toJson (parameter : Parameter) : Json := .record [
  Json.fieldOf "name" (.string parameter.name),
  Json.fieldOf "description" (.string parameter.description),
  Json.fieldOf "schema" parameter.accepted,
  Json.fieldOf "required" (.bool parameter.required)]

def ofJson? (record : Json) : Option Parameter := do
  let name ← record.required? "name" Json.text?
  let description ← record.required? "description" Json.text?
  let accepted ← record.required? "schema" Json.some?
  let required ← record.required? "required" Json.bool?
  return ⟨name, description, accepted, required⟩

end Parameter

namespace Returned

/-- What a process returns that says nothing else. -/
def standard : Returned := ⟨"Processed EO data.", rasterCube⟩

def toJson (returned : Returned) : Json := .record [
  Json.fieldOf "description" (.string returned.description),
  Json.fieldOf "schema" returned.accepted]

def ofJson? (record : Json) : Option Returned := do
  let description ← record.required? "description" Json.text?
  let accepted ← record.required? "schema" Json.some?
  return ⟨description, accepted⟩

end Returned

namespace Description

/-- A description without summary and parameters. -/
def new (id : ProcessId) (description : String) : Description :=
  ⟨id, none, description, [], .standard⟩

def withSummary (summary : String) (described : Description) : Description :=
  { described with summary := some summary }

def withParameter (parameter : Parameter) (described : Description) : Description :=
  { described with parameters := described.parameters ++ [parameter] }

def withRequired (name description : String) (accepted : Json) (described : Description) :
    Description :=
  described.withParameter (.new name description accepted true)

def withOptional (name description : String) (accepted : Json) (described : Description) :
    Description :=
  described.withParameter (.new name description accepted false)

def withReturned (description : String) (accepted : Json) (described : Description) :
    Description :=
  { described with returned := ⟨description, accepted⟩ }

/-- The first parameter of a name. -/
def parameter? (name : String) (described : Description) : Option Parameter :=
  described.parameters.find? (fun parameter => parameter.name = name)

/-- The names of the required parameters, in order. -/
def required (described : Description) : List String :=
  (described.parameters.filter (·.required)).map (·.name)

def toJson (described : Description) : Json := .record [
  Json.fieldOf "process_id" (.string described.id.text),
  Json.fieldIf "summary" .string described.summary,
  Json.fieldOf "description" (.string described.description),
  Json.fieldOf "parameters" (.array (described.parameters.map Parameter.toJson)),
  Json.fieldOf "returns" described.returned.toJson]

def readId? (value : Json) : Option ProcessId :=
  value.text?.bind fun text => (ProcessId.read text).toOption

def ofJson? (record : Json) : Option Description := do
  let id ← record.required? "process_id" readId?
  let summary ← record.optional? "summary" Json.text?
  let description ← record.required? "description" Json.text?
  let parameters ← record.defaulted? "parameters" [] (Json.list? Parameter.ofJson?)
  let returned ← record.defaulted? "returns" .standard Returned.ofJson?
  return ⟨id, summary, description, parameters, returned⟩

end Description

end GeoChain
