import GeoChain.Backend.Error
import GeoChain.Compile.Compiler

/-!
# Why a run fails

A failure says what was being done, and then names the causes behind it, the nearest first. The
summary stops where the words of the backend's transport or of the operating system would begin.
-/

namespace GeoChain

namespace CommandLine

inductive Failure where
  | noClient (cause : BackendError)
  | noDiscovery (cause : BackendError)
  | invalidConfig (problem : Config.Problem)
  | noInput (reason : String)
  | noFile (path reason : String)
  | notJson
  | rejected (cause : CompileError)
  | noSubmission (cause : BackendError)
  | refused (status : Nat)
deriving DecidableEq

namespace Failure

/-- What was being done, and what lies behind its failure. -/
def causes : Failure → List String
  | noClient cause => "failed to create actinia client" :: cause.causes
  | noDiscovery cause => "failed to discover backend modules" :: cause.causes
  | invalidConfig problem => ["invalid compiler configuration", problem.message]
  | noInput reason => ["failed to read process graph from stdin", reason]
  | noFile path reason => ["failed to read process graph from " ++ path, reason]
  | notJson => ["process graph is not valid JSON"]
  | rejected cause => cause.message :: (cause.source?.map FailureSource.message).toList
  | noSubmission cause => "failed to submit process chain" :: cause.causes
  | refused status => ["actinia rejected the process chain with status " ++ toString status]

def message (failure : Failure) : String := ": ".intercalate failure.causes

/-- The causes that this program words itself. -/
def ownCauses : Failure → List String
  | noClient _ => ["failed to create actinia client"]
  | noDiscovery cause => ["failed to discover backend modules", cause.summary]
  | noInput _ => ["failed to read process graph from stdin"]
  | noFile path _ => ["failed to read process graph from " ++ path]
  | noSubmission cause => ["failed to submit process chain", cause.summary]
  | failure => failure.causes

def summary (failure : Failure) : String := ": ".intercalate failure.ownCauses

end Failure

end CommandLine

end GeoChain
