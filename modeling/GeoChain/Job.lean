import GeoChain.Json.Record

/-!
# Job status

The stages of a batch job. A job that finished, failed or was cancelled stays as it is.
-/

namespace GeoChain

inductive JobStatus where
  | accepted
  | running
  | finished
  | error
  | terminated
deriving DecidableEq, Repr

namespace JobStatus

/-- A job starts as accepted. -/
instance : Inhabited JobStatus := ⟨accepted⟩

def text : JobStatus → String
  | accepted => "accepted"
  | running => "running"
  | finished => "finished"
  | error => "error"
  | terminated => "terminated"

def all : List JobStatus := [accepted, running, finished, error, terminated]

def read? (name : String) : Option JobStatus := all.find? (fun status => status.text = name)

def isTerminal : JobStatus → Bool
  | finished | error | terminated => true
  | accepted | running => false

def toJson (status : JobStatus) : Json := .string status.text

def ofJson? (value : Json) : Option JobStatus := value.variant?.bind read?

end JobStatus

end GeoChain
