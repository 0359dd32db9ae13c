import GeoChain.Chain.Command

/-!
# Chains on the wire

A chain is the list of commands that the backend runs, under a version. A plan is a compiled graph:
the location that it runs in, the datasets that it gives, and its commands. Each has a JSON record,
and reading a written record gives the value back.
-/

namespace GeoChain

namespace DataKind

def toJson (kind : DataKind) : Json := .string kind.text

def ofJson? (value : Json) : Option DataKind := value.variant?.bind read?

end DataKind

namespace Import

def toJson (imported : Import) : Json := .record [
  Json.fieldOf "type" imported.kind.toJson,
  Json.fieldOf "source" (.string imported.source)]

def ofJson? (record : Json) : Option Import := do
  let kind ← record.required? "type" DataKind.ofJson?
  let source ← record.required? "source" Json.text?
  return ⟨kind, source⟩

end Import

namespace Export

def toJson (exported : Export) : Json := .record [
  Json.fieldOf "type" exported.kind.toJson,
  Json.fieldOf "format" (.string exported.format)]

def ofJson? (record : Json) : Option Export := do
  let kind ← record.required? "type" DataKind.ofJson?
  let format ← record.required? "format" Json.text?
  return ⟨kind, format⟩

end Export

namespace Input

def toJson (input : Input) : Json := .record [
  Json.fieldOf "param" (.string input.param),
  Json.fieldOf "value" (.string input.value),
  Json.fieldIf "import_descr" Import.toJson input.imported]

def ofJson? (record : Json) : Option Input := do
  let param ← record.required? "param" Json.text?
  let value ← record.required? "value" Json.text?
  let imported ← record.optional? "import_descr" Import.ofJson?
  return ⟨param, value, imported⟩

end Input

namespace Output

def toJson (output : Output) : Json := .record [
  Json.fieldOf "param" (.string output.param),
  Json.fieldOf "value" (.string output.value),
  Json.fieldIf "export" Export.toJson output.exported]

def ofJson? (record : Json) : Option Output := do
  let param ← record.required? "param" Json.text?
  let value ← record.required? "value" Json.text?
  let exported ← record.optional? "export" Export.ofJson?
  return ⟨param, value, exported⟩

end Output

namespace Command

def toJson (command : Command) : Json := .record [
  Json.fieldOf "id" (.string command.id),
  Json.fieldOf "module" (.string command.module),
  Json.fieldOfItems "inputs" Input.toJson command.inputs,
  Json.fieldOfItems "outputs" Output.toJson command.outputs,
  Json.fieldIf "flags" .string command.flags]

def ofJson? (record : Json) : Option Command := do
  let id ← record.required? "id" Json.text?
  let module ← record.required? "module" Json.text?
  let inputs ← record.defaulted? "inputs" [] (Json.list? Input.ofJson?)
  let outputs ← record.defaulted? "outputs" [] (Json.list? Output.ofJson?)
  let flags ← record.optional? "flags" Json.text?
  return ⟨id, module, inputs, outputs, flags⟩

end Command

structure Chain where
  commands : List Command
  version : String
deriving DecidableEq, Repr

namespace Chain

def currentVersion : String := "1"

def new (commands : List Command) : Chain := ⟨commands, currentVersion⟩

def length (chain : Chain) : Nat := chain.commands.length

def isEmpty (chain : Chain) : Bool := chain.commands.isEmpty

def toJson (chain : Chain) : Json := .record [
  Json.fieldOf "list" (.array (chain.commands.map Command.toJson)),
  Json.fieldOf "version" (.string chain.version)]

def ofJson? (record : Json) : Option Chain := do
  let commands ← record.required? "list" (Json.list? Command.ofJson?)
  let version ← record.required? "version" Json.text?
  return ⟨commands, version⟩

end Chain

/-- A compiled graph. -/
structure Plan where
  location : String
  outputs : List String
  commands : List Command
deriving DecidableEq, Repr

namespace Plan

def chain (plan : Plan) : Chain := .new plan.commands

def toJson (plan : Plan) : Json := .record [
  Json.fieldOf "location" (.string plan.location),
  Json.fieldOf "output_ids" (.ofStrings plan.outputs),
  Json.fieldOf "commands" (.array (plan.commands.map Command.toJson))]

def ofJson? (record : Json) : Option Plan := do
  let location ← record.required? "location" Json.text?
  let outputs ← record.required? "output_ids" (Json.list? Json.text?)
  let commands ← record.required? "commands" (Json.list? Command.ofJson?)
  return ⟨location, outputs, commands⟩

end Plan

end GeoChain
