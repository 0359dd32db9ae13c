import GeoChain.Catalog.Basic
import GeoChain.Chain.Wire
import GeoChain.Graph.Stored

/-!
# Compiling a graph

A graph is compiled from its leaves: the arguments of a node in key order, each nested node before
the node that reads it, and the commands of a node behind those of its arguments. The first failure
ends the compilation. At every node the depth is checked first, then the process is looked up; after
its arguments its emitter is called once. The data of a compiled graph live in exactly one location.
-/

namespace GeoChain

structure Config where
  maxDepth : Nat
  strategy : IdStrategy
deriving DecidableEq, Repr

namespace Config

def standard : Config := ⟨64, .random⟩

/-- Why a configuration is refused. -/
inductive Problem where
  | noDepth
deriving DecidableEq, Repr

def Problem.message : Problem → String
  | .noDepth => "max_depth must be at least 1"

def new (maxDepth : Nat) (strategy : IdStrategy) : Except Problem Config :=
  if maxDepth = 0 then .error .noDepth else .ok ⟨maxDepth, strategy⟩

end Config

structure Compiler where
  catalog : Catalog
  maxDepth : Nat

namespace Compiler

/-- Calls the emitter of a process and puts its commands behind those of the arguments. -/
def call (process : ProcessId) (emitter : Emitter) (values : List (String × Value))
    (earlier : List Command) (context : Context) : Except CompileError Product × Context :=
  match (emitter ⟨process, values⟩).execute context with
  | (.error halt, context) => (.error (halt.error process), context)
  | (.ok product, context) =>
    if product.datasets.isEmpty then
      (.error (.failed process.text .nothingProduced none), context)
    else (.ok ⟨product.datasets, earlier ++ product.commands⟩, context)

mutual

def node (compiler : Compiler) (depth : Nat) (graph : Node) (context : Context) :
    Except CompileError Product × Context :=
  match graph with
  | .mk process given =>
    if compiler.maxDepth < depth then
      (.error (.malformed (.tooDeep compiler.maxDepth)), context)
    else
      match compiler.catalog.resolve process.text with
      | .error cause => (.error cause, context)
      | .ok emitter =>
        match arguments compiler (depth + 1) given context with
        | (.error cause, context) => (.error cause, context)
        | (.ok (values, earlier), context) => call process emitter values earlier context

/-- The values of all arguments, and the commands that make them. -/
def arguments (compiler : Compiler) (depth : Nat) (given : List (String × Argument))
    (context : Context) : Except CompileError (List (String × Value) × List Command) × Context :=
  match given with
  | [] => (.ok ([], []), context)
  | (name, first) :: rest =>
    match argument compiler depth first context with
    | (.error cause, context) => (.error cause, context)
    | (.ok (value, commands), context) =>
      match arguments compiler depth rest context with
      | (.error cause, context) => (.error cause, context)
      | (.ok (values, later), context) =>
        (.ok ((name, value) :: values, commands ++ later), context)

def argument (compiler : Compiler) (depth : Nat) (given : Argument) (context : Context) :
    Except CompileError (Value × List Command) × Context :=
  match given with
  | .literal value => (.ok (.literal value, []), context)
  | .node nested =>
    match node compiler depth nested context with
    | (.error cause, context) => (.error cause, context)
    | (.ok product, context) => (.ok (.data product.datasets, product.commands), context)
  | .nodes nested =>
    match nodes compiler depth nested context with
    | (.error cause, context) => (.error cause, context)
    | (.ok product, context) => (.ok (.data product.datasets, product.commands), context)

/-- The products of several nodes, joined. -/
def nodes (compiler : Compiler) (depth : Nat) (nested : List Node) (context : Context) :
    Except CompileError Product × Context :=
  match nested with
  | [] => (.ok ⟨[], []⟩, context)
  | first :: rest =>
    match node compiler depth first context with
    | (.error cause, context) => (.error cause, context)
    | (.ok product, context) =>
      match nodes compiler depth rest context with
      | (.error cause, context) => (.error cause, context)
      | (.ok others, context) =>
        (.ok ⟨product.datasets ++ others.datasets, product.commands ++ others.commands⟩, context)

end

def compile (compiler : Compiler) (ids : IdSource) (graph : Node) : Except CompileError Plan :=
  match compiler.node 1 graph (.new ids) with
  | (.error cause, _) => .error cause
  | (.ok product, context) =>
    match context.location with
    | .error cause => .error cause
    | .ok location => .ok ⟨location, product.datasets, product.commands⟩

/-- Reads a graph and compiles it. -/
def compileJson (compiler : Compiler) (ids : IdSource) (value : Json) :
    Except CompileError Plan :=
  match Node.ofJson value with
  | .error cause => .error (.malformed cause)
  | .ok graph => compiler.compile ids graph

def compileStored (compiler : Compiler) (ids : IdSource) (stored : StoredGraph) :
    Except CompileError Plan :=
  compiler.compile ids stored.graph

end Compiler

end GeoChain
