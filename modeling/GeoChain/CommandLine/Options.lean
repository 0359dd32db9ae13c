import GeoChain.Backend.Settings
import GeoChain.Compile.Compiler

/-!
# What a user asks for

The options of a run: the action, how graphs are compiled, and where the backend is. The backend is
needed to discover modules and to submit a chain.
-/

namespace GeoChain

namespace CommandLine

inductive Action where
  | processes
  | compile (path : String) (submit : Bool)
deriving DecidableEq, Repr

namespace Action

def toJson : Action → Json
  | processes => .string "Processes"
  | compile path submit => .record [
      Json.fieldOf "Compile" (.record [
        Json.fieldOf "path" (.string path),
        Json.fieldOf "submit" (.bool submit)])]

def readCompile? (record : Json) : Option Action := do
  let path ← record.required? "path" Json.text?
  let submit ← record.defaulted? "submit" false Json.bool?
  return compile path submit

/-- A variant by its bare name, or as an object with its name and its content. -/
def ofJson? : Json → Option Action
  | .object [("Compile", content)] => readCompile? content
  | value => if value.variant? = some "Processes" then some processes else none

end Action

/-- Where a graph comes from. -/
inductive GraphSource where
  | input
  | file (path : String)
deriving DecidableEq, Repr

/-- A path that consists of a single hyphen means the standard input; slashes and dots behind it do
not change a path. -/
def GraphSource.ofPath (path : String) : GraphSource :=
  match Text.split '/' path.toList with
  | ['-'] :: rest =>
    if rest.all fun part => part.isEmpty || part = ['.'] then input else file path
  | _ => file path

structure CompilerOptions where
  maxDepth : Nat
  sequentialIds : Bool
  discover : Bool
deriving DecidableEq, Repr

namespace CompilerOptions

def standard : CompilerOptions := ⟨Config.standard.maxDepth, false, false⟩

def strategy (options : CompilerOptions) : IdStrategy :=
  if options.sequentialIds then .sequential else .random

def config (options : CompilerOptions) : Except Config.Problem Config :=
  Config.new options.maxDepth options.strategy

def toJson (options : CompilerOptions) : Json := .record [
  Json.fieldOf "max_depth" (.ofNat options.maxDepth),
  Json.fieldOf "sequential_ids" (.bool options.sequentialIds),
  Json.fieldOf "discover" (.bool options.discover)]

def readDepth? (value : Json) : Option Nat := value.natBelow? (Nat.pow 2 64)

def ofJson? (record : Json) : Option CompilerOptions := do
  let maxDepth ← record.required? "max_depth" readDepth?
  let sequentialIds ← record.defaulted? "sequential_ids" false Json.bool?
  let discover ← record.defaulted? "discover" false Json.bool?
  return ⟨maxDepth, sequentialIds, discover⟩

end CompilerOptions

structure Options where
  action : Action
  compiler : CompilerOptions
  settings : Settings
deriving DecidableEq, Repr

namespace Options

def submits (options : Options) : Bool :=
  match options.action with
  | .compile _ submit => submit
  | .processes => false

def needsBackend (options : Options) : Bool := options.compiler.discover || options.submits

def toJson (options : Options) : Json := .record [
  Json.fieldOf "command" options.action.toJson,
  Json.fieldOf "compiler" options.compiler.toJson,
  Json.fieldOf "actinia" options.settings.toJson]

def ofJson? (record : Json) : Option Options := do
  let action ← record.required? "command" Action.ofJson?
  let compiler ← record.required? "compiler" CompilerOptions.ofJson?
  let settings ← record.required? "actinia" Settings.ofJson?
  return ⟨action, compiler, settings⟩

end Options

end CommandLine

end GeoChain
