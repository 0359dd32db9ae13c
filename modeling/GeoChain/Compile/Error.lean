import GeoChain.Dataset.Reference
import GeoChain.Graph.Malformed
import GeoChain.Number.Numeral

/-!
# Why a graph does not compile

An error names its cause; kind, wording and status of every cause are functions on it. Only the
failure of a process can have a deeper source. Every error is the fault of whoever sent the graph.
-/

namespace GeoChain

/-- Why the emitter of a process failed. -/
inductive Failure where
  | notText (argument : String)
  | notNumber (argument : String)
  | notFinite (argument : String)
  | notNode (argument : String)
  | notSingle (argument : String) (count : Nat)
  | notDate (argument : String)
  | invalidReference (text : String)
  | nothingDeclared (module : String)
  | nothingProduced
  | stated (message : String)
deriving DecidableEq, Repr

def Failure.message : Failure → String
  | .notText argument => "argument '" ++ argument ++ "' must be a string"
  | .notNumber argument => "argument '" ++ argument ++ "' must be a number"
  | .notFinite argument => "argument '" ++ argument ++ "' must be a finite number"
  | .notNode argument => "argument '" ++ argument ++ "' must be a process graph node"
  | .notSingle argument count =>
    "argument '" ++ argument ++ "' must produce exactly one dataset, got " ++ toString count
  | .notDate argument => "argument '" ++ argument ++ "' must be an ISO 8601 date or date-time"
  | .invalidReference text => "invalid data_id '" ++ text ++ "'"
  | .nothingDeclared module =>
    "module '" ++ module ++ "' declares no outputs and receives no data"
  | .nothingProduced => "process produced no output"
  | .stated message => message

/-- What lies behind a failure. -/
inductive FailureSource where
  | numeral (problem : Numeral.Problem)
  | reference (problem : Reference.Problem)
  | stated (message : String)
deriving DecidableEq, Repr

def FailureSource.message : FailureSource → String
  | .numeral problem => problem.message
  | .reference problem => problem.message
  | .stated message => message

inductive CompileError where
  | malformed (cause : Malformed)
  | unknownProcess (process : String)
  | missingArgument (process argument : String)
  | failed (process : String) (failure : Failure) (source : Option FailureSource)
  | noData
  | severalLocations (locations : List String)
deriving DecidableEq

namespace CompileError

inductive Kind where
  | malformedGraph
  | unknownProcess
  | missingArgument
  | compilationError
  | noDataReferenced
  | multiLocationGraph
deriving DecidableEq, Repr

namespace Kind

def text : Kind → String
  | malformedGraph => "malformed_graph"
  | unknownProcess => "unknown_process"
  | missingArgument => "missing_argument"
  | compilationError => "compilation_error"
  | noDataReferenced => "no_data_referenced"
  | multiLocationGraph => "multi_location_graph"

def all : List Kind := [malformedGraph, unknownProcess, missingArgument, compilationError,
  noDataReferenced, multiLocationGraph]

def read? (name : String) : Option Kind := all.find? (fun kind => kind.text = name)

end Kind

def kind : CompileError → Kind
  | malformed _ => .malformedGraph
  | unknownProcess _ => .unknownProcess
  | missingArgument _ _ => .missingArgument
  | failed _ _ _ => .compilationError
  | noData => .noDataReferenced
  | severalLocations _ => .multiLocationGraph

def message : CompileError → String
  | malformed cause => "malformed process graph: " ++ cause.message
  | unknownProcess process => "unknown process '" ++ process ++ "'"
  | missingArgument process argument =>
    "process '" ++ process ++ "' is missing required argument '" ++ argument ++ "'"
  | failed process failure _ =>
    "compilation of process '" ++ process ++ "' failed: " ++ failure.message
  | noData => "the process graph does not reference any data"
  | severalLocations locations =>
    "processes can only be defined for a single location, found: " ++
      ", ".intercalate locations

def source? : CompileError → Option FailureSource
  | failed _ _ source => source
  | malformed _ | unknownProcess _ | missingArgument _ _ | noData | severalLocations _ => none

/-- Gives a failure a source; no other error has one. -/
def withSource (source : FailureSource) : CompileError → CompileError
  | failed process failure _ => failed process failure (some source)
  | error => error

/-- The HTTP status that answers the error. -/
def status (_ : CompileError) : Nat := 400

/-- Whether the sender of the graph is to blame. -/
def isClientError (error : CompileError) : Bool := error.status < 500

end CompileError

end GeoChain
