import GeoChain.Backend.Client
import GeoChain.CommandLine.Failure
import GeoChain.CommandLine.Options
import GeoChain.Compile.Report
import GeoChain.Process.Builtin

/-!
# Running an action

A run makes a client if one is needed, then discovers modules if that is asked for, and then lists
the processes or compiles a graph. What is compiled is printed or submitted; of a submitted chain
the body of the answer is printed. A graph that is rejected is answered with a printed report before
the run fails. Nothing else is printed by a run that fails.
-/

namespace GeoChain

namespace CommandLine

/-- What a run finds around it. -/
structure Surroundings (m : Type → Type) where
  /-- The text of a graph, or why it cannot be read. -/
  read : GraphSource → m (Except String String)
  send : Transport m
  /-- Random identifiers for the steps of a chain. -/
  stepIds : Nat → Uuid
  /-- A random identifier for a report. -/
  reportId : Uuid

/-- What a run leaves behind: the values that it prints, and the failure that ends it. -/
structure Outcome where
  printed : List Json
  failure : Option Failure

namespace Outcome

def done (printed : Json) : Outcome := ⟨[printed], none⟩

def failed (failure : Failure) : Outcome := ⟨[], some failure⟩

/-- What is written to the standard output: every value with a line end behind it. -/
def output (outcome : Outcome) : String :=
  String.join (outcome.printed.map fun value => value.pretty ++ "\n")

def exitCode (outcome : Outcome) : Nat := if outcome.failure.isSome then 1 else 0

end Outcome

/-- A run that leaves the rest of its steps out once one has failed. -/
abbrev Running (m : Type → Type) := ExceptT Outcome m

variable {m : Type → Type} [Monad m]

/-- The value of a step, or the end of the run. -/
def orFail {ε α : Type} (failure : ε → Failure) : Except ε α → Running m α
  | .ok value => pure value
  | .error cause => throw (.failed (failure cause))

/-- A provider for the runs that need one. -/
def connect (surroundings : Surroundings m) (options : Options) :
    Running m (Option (Provider m)) := do
  if options.needsBackend then
    let client ← orFail .noClient (Client.new options.settings)
    return some (client.provider surroundings.send)
  else return none

/-- The built-in processes, and those of discovered modules if they are asked for. -/
def catalogOf (options : Options) (provider : Option (Provider m)) : Running m Catalog := do
  match provider with
  | some provider =>
    if options.compiler.discover then
      let (count, catalog) ← ExceptT.lift (provider.discover Catalog.builtin)
      let _ ← orFail .noDiscovery count
      return catalog
    else return Catalog.builtin
  | none => return Catalog.builtin

def readFailed (source : GraphSource) (reason : String) : Failure :=
  match source with
  | .input => .noInput reason
  | .file path => .noFile path reason

def readGraph (surroundings : Surroundings m) (path : String) : Running m Json := do
  let source := GraphSource.ofPath path
  let text ← orFail (readFailed source) (← ExceptT.lift (surroundings.read source))
  match Json.read? text with
  | some graph => return graph
  | none => throw (.failed .notJson)

def rejected (surroundings : Surroundings m) (cause : CompileError) : Outcome :=
  ⟨[(ErrorReport.new surroundings.reportId cause).toJson], some (.rejected cause)⟩

def submit (provider : Provider m) (plan : Plan) : Running m Outcome := do
  let response ← orFail .noSubmission (← ExceptT.lift (provider.submitPlan plan))
  return ⟨[response.body], if response.isSuccess then none else some (.refused response.status)⟩

def compile (surroundings : Surroundings m) (compiler : Compiler) (strategy : IdStrategy)
    (path : String) (provider : Option (Provider m)) : Running m Outcome := do
  let graph ← readGraph surroundings path
  match compiler.compileJson (strategy.source surroundings.stepIds) graph with
  | .error cause => throw (rejected surroundings cause)
  | .ok plan =>
    match provider with
    | some provider => submit provider plan
    | none => return .done plan.chain.toJson

def perform (surroundings : Surroundings m) (options : Options) : Running m Outcome := do
  let provider ← connect surroundings options
  let catalog ← catalogOf options provider
  match options.action with
  | .processes => return .done (.array (catalog.descriptions.map Description.toJson))
  | .compile path submits =>
    let config ← orFail .invalidConfig options.compiler.config
    compile surroundings ⟨catalog, config.maxDepth⟩ config.strategy path
      (if submits then provider else none)

def run (surroundings : Surroundings m) (options : Options) : m Outcome := do
  match ← (perform surroundings options).run with
  | .ok outcome => return outcome
  | .error outcome => return outcome

end CommandLine

end GeoChain
