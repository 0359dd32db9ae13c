import GeoChain.Catalog.Description

/-!
# Backend modules

A module that the backend advertises has input parameters and named outputs. It is described to
clients as a process of its own; a module with several outputs gives one more process for each of
them. Of a schema the type and the subtype are known, and every other keyword is kept as it is. A
raster subtype is described to clients as a raster cube.
-/

namespace GeoChain

structure ModuleSchema where
  type : Option String
  subtype : Option String
  others : List (String × Json)
deriving DecidableEq

structure ModuleParameter where
  name : String
  description : String
  isOptional : Bool
  accepted : ModuleSchema
deriving DecidableEq

structure Module where
  id : String
  description : String
  categories : List String
  parameters : List ModuleParameter
  returns : List ModuleParameter
deriving DecidableEq

namespace ModuleSchema

def empty : ModuleSchema := ⟨none, none, []⟩

def isRaster (schema : ModuleSchema) : Bool :=
  schema.subtype = some "cell" || schema.subtype = some "strds"

def toJson (schema : ModuleSchema) : Json :=
  .record ([Json.fieldIf "type" .string schema.type,
    Json.fieldIf "subtype" .string schema.subtype] ++ schema.others.map some)

def ofJson? : Json → Option ModuleSchema
  | .object members => do
    let type ← (Json.object members).optional? "type" Json.text?
    let subtype ← (Json.object members).optional? "subtype" Json.text?
    return ⟨type, subtype, Keyed.erase "subtype" (Keyed.erase "type" members)⟩
  | _ => none

/-- The schema as clients see it: an object in key order. -/
def described (schema : ModuleSchema) : Json :=
  if schema.isRaster then rasterCube
  else
    match schema.toJson with
    | .object members => .object (Keyed.ofList members)
    | other => other

end ModuleSchema

namespace ModuleParameter

def described (parameter : ModuleParameter) : Parameter :=
  ⟨parameter.name, parameter.description, parameter.accepted.described, !parameter.isOptional⟩

def toJson (parameter : ModuleParameter) : Json := .record [
  Json.fieldOf "name" (.string parameter.name),
  Json.fieldOf "description" (.string parameter.description),
  Json.fieldOf "optional" (.bool parameter.isOptional),
  Json.fieldOf "schema" parameter.accepted.toJson]

def ofJson? (record : Json) : Option ModuleParameter := do
  let name ← record.required? "name" Json.text?
  let description ← record.defaulted? "description" "" Json.text?
  let isOptional ← record.defaulted? "optional" false Json.bool?
  let accepted ← record.defaulted? "schema" .empty ModuleSchema.ofJson?
  return ⟨name, description, isOptional, accepted⟩

end ModuleParameter

namespace Module

/-- A module without parameters and outputs. -/
def new (id description : String) : Module := ⟨id, description, [], [], []⟩

def withParameter (parameter : ModuleParameter) (module : Module) : Module :=
  { module with parameters := module.parameters ++ [parameter] }

def withReturn (output : ModuleParameter) (module : Module) : Module :=
  { module with returns := module.returns ++ [output] }

def process (module : Module) : ProcessId := .sanitize module.id

/-- The process that runs a module for one of its outputs. -/
def outputProcess (output : ModuleParameter) (module : Module) : ProcessId :=
  .sanitize (module.id ++ "_" ++ output.name)

def hasSeveralOutputs (module : Module) : Bool := 1 < module.returns.length

def describe (id : ProcessId) (summary : String) (outputs : List ModuleParameter)
    (module : Module) : Description where
  id
  summary := some summary
  description := module.description
  parameters := module.parameters.map ModuleParameter.described
  returned := match outputs with
    | [output] => ⟨output.description, output.accepted.described⟩
    | _ => .standard

def described (module : Module) : Description :=
  module.describe module.process module.id module.returns

/-- The description of the process for one output. -/
def describedFor (output : ModuleParameter) (module : Module) : Description :=
  module.describe (module.outputProcess output) (module.id ++ " (" ++ output.name ++ ")") [output]

def toJson (module : Module) : Json := .record [
  Json.fieldOf "id" (.string module.id),
  Json.fieldOf "description" (.string module.description),
  Json.fieldOf "categories" (.ofStrings module.categories),
  Json.fieldOf "parameters" (.array (module.parameters.map ModuleParameter.toJson)),
  Json.fieldOf "returns" (.array (module.returns.map ModuleParameter.toJson))]

def ofJson? (record : Json) : Option Module := do
  let id ← record.required? "id" Json.text?
  let description ← record.defaulted? "description" "" Json.text?
  let categories ← record.defaulted? "categories" [] (Json.list? Json.text?)
  let parameters ← record.defaulted? "parameters" [] (Json.list? ModuleParameter.ofJson?)
  let returns ← record.defaulted? "returns" [] (Json.list? ModuleParameter.ofJson?)
  return ⟨id, description, categories, parameters, returns⟩

end Module

end GeoChain
