import GeoChain.Json.Record
import GeoChain.Text.Split

/-!
# Backend commands

A command runs one backend module: it has a step id, inputs and outputs in the order in which they
were given, and optional flags. An input may tell the backend to import its value from elsewhere,
an output to export it. The JSON record leaves out what is empty.
-/

namespace GeoChain

inductive DataKind where
  | raster
  | vector
  | file
deriving DecidableEq, Repr

def DataKind.text : DataKind → String
  | .raster => "raster"
  | .vector => "vector"
  | .file => "file"

def DataKind.read? : String → Option DataKind
  | "raster" => some .raster
  | "vector" => some .vector
  | "file" => some .file
  | _ => none

/-- The value is to be imported from a source before the command runs. -/
structure Import where
  kind : DataKind
  source : String
deriving DecidableEq, Repr

/-- The value is to be exported in a format after the command ran. -/
structure Export where
  kind : DataKind
  format : String
deriving DecidableEq, Repr

structure Input where
  param : String
  value : String
  imported : Option Import
deriving DecidableEq, Repr

structure Output where
  param : String
  value : String
  exported : Option Export
deriving DecidableEq, Repr

structure Command where
  id : String
  module : String
  inputs : List Input
  outputs : List Output
  flags : Option String
deriving DecidableEq, Repr

namespace Command

def new (id module : String) : Command := ⟨id, module, [], [], none⟩

def withInput (param value : String) (command : Command) : Command :=
  { command with inputs := command.inputs ++ [⟨param, value, none⟩] }

def withImport (param value : String) (imported : Import) (command : Command) : Command :=
  { command with inputs := command.inputs ++ [⟨param, value, some imported⟩] }

def withOutput (param value : String) (command : Command) : Command :=
  { command with outputs := command.outputs ++ [⟨param, value, none⟩] }

def withExport (param value : String) (exported : Export) (command : Command) : Command :=
  { command with outputs := command.outputs ++ [⟨param, value, some exported⟩] }

def withFlags (flags : String) (command : Command) : Command :=
  { command with flags := some flags }

/-- The value of the first input of a name. -/
def input? (param : String) (command : Command) : Option String :=
  (command.inputs.find? (fun input => input.param = param)).map (·.value)

/-- The value of the first output of a name. -/
def output? (param : String) (command : Command) : Option String :=
  (command.outputs.find? (fun output => output.param = param)).map (·.value)

/-- Whether a dataset is one of the names that the inputs list between commas. -/
def reads (dataset : String) (command : Command) : Bool :=
  command.inputs.any fun input => (Text.split ',' input.value.toList).contains dataset.toList

end Command

end GeoChain
