import GeoChain.Compile.Error
import GeoChain.Json.Record
import GeoChain.Uuid

/-!
# Error reports

The object that clients are given for an error. Every report has an identifier of its own, so two
reports of one error are different.
-/

namespace GeoChain

structure ErrorReport where
  id : Uuid
  code : String
  message : String
deriving DecidableEq

namespace ErrorReport

def new (id : Uuid) (error : CompileError) : ErrorReport := ⟨id, error.kind.text, error.message⟩

def toJson (report : ErrorReport) : Json := .record [
  Json.fieldOf "id" (.string report.id.text),
  Json.fieldOf "code" (.string report.code),
  Json.fieldOf "message" (.string report.message)]

def ofJson? (record : Json) : Option ErrorReport := do
  let id ← record.required? "id" (fun value => value.text?.bind Uuid.read?)
  let code ← record.required? "code" Json.text?
  let message ← record.required? "message" Json.text?
  return ⟨id, code, message⟩

end ErrorReport

end GeoChain
