import GeoChain.Catalog.Module
import GeoChain.Compile.Emitter
import GeoChain.Dataset.Name
import GeoChain.Json.Printer

/-!
# Running a backend module

A call of a module becomes one command. Every argument that is not `null` becomes an input: a text
as it is, another literal as compact JSON, and datasets with commas between them. The declared
outputs are named after all datasets of the call, or after the step if there are none; a module
that declares no outputs passes the datasets through.
-/

namespace GeoChain

structure ModuleRun where
  module : String
  outputs : List String
deriving DecidableEq, Repr

/-- Runs a module with all its outputs. -/
def Module.run (module : Module) : ModuleRun :=
  ⟨module.id, module.returns.map (·.name)⟩

/-- Runs a module for one output. -/
def Module.runFor (output : ModuleParameter) (module : Module) : ModuleRun :=
  ⟨module.id, [output.name]⟩

namespace ModuleRun

/-- The text that an argument is given to the module as, if it is given. -/
def inputText? : Value → Option String
  | .literal .null => none
  | .literal (.string text) => some text
  | .literal value => some value.compact
  | .data datasets => some (",".intercalate datasets)

def inputs (values : List (String × Value)) : List Input :=
  values.filterMap fun (name, value) => (inputText? value).map fun text => ⟨name, text, none⟩

/-- All datasets of a call, in the order of its arguments. -/
def received (values : List (String × Value)) : List String :=
  values.flatMap fun (_, value) =>
    match value with
    | .data datasets => datasets
    | .literal _ => []

/-- What the datasets of a call are named after. -/
def base (stepId process : String) (received : List String) : String :=
  if received.isEmpty then stepId else Dataset.joined received process

/-- The dataset that a call makes for one of the outputs. -/
def outputDataset (base output : String) (run : ModuleRun) : String :=
  if run.outputs.length = 1 then base else base ++ "_" ++ output

def emit (run : ModuleRun) : Emitter := fun arguments => do
  let process := arguments.process.text
  let stepId ← Emission.nextStepId process
  let command : Command := ⟨stepId, run.module, inputs arguments.values, [], none⟩
  let datasets := received arguments.values
  if run.outputs.isEmpty then
    if datasets.isEmpty then
      throw (.failed (arguments.failed (.nothingDeclared run.module)))
    else return ⟨datasets, [command]⟩
  else
    let base := base stepId process datasets
    let made := run.outputs.map fun output => (output, run.outputDataset base output)
    return ⟨made.map (·.2),
      [{ command with outputs := made.map fun (output, dataset) => ⟨output, dataset, none⟩ }]⟩

end ModuleRun

end GeoChain
