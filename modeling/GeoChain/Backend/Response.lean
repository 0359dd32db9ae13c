import GeoChain.Calendar.Stamp
import GeoChain.Catalog.Module
import GeoChain.Json.Reader

/-!
# Answers of the backend

A response to a submitted chain has a status, a body, and the moment at which it arrived. A body
that is not JSON is kept as a text. A listing has a status and the modules that the backend offers.
An answer is a success if its status is one of the two hundreds.
-/

namespace GeoChain

/-- Whether a status of an answer means success. -/
def isSuccessStatus (status : Nat) : Bool := 200 ≤ status && status < 300

/-- Statuses have 16 bits. -/
def readStatus? (value : Json) : Option Nat := value.natBelow? (Nat.pow 2 16)

structure Response where
  status : Nat
  body : Json
  receivedAt : Calendar.Moment
deriving DecidableEq

namespace Response

def bodyOf (text : String) : Json := (Json.read? text).getD (.string text)

/-- A response with a body that may be JSON. -/
def ofText (status : Nat) (text : String) (receivedAt : Calendar.Moment) : Response :=
  ⟨status, bodyOf text, receivedAt⟩

def isSuccess (response : Response) : Bool := isSuccessStatus response.status

/-- The identifier that the backend gave to the job. -/
def resourceId? (response : Response) : Option String :=
  (response.body.field? "resource_id").bind Json.text?

def toJson (response : Response) : Json := .record [
  Json.fieldOf "status_code" (.ofNat response.status),
  Json.fieldOf "body" response.body,
  Json.fieldOf "received_at" (.string response.receivedAt.text)]

def readMoment? (value : Json) : Option Calendar.Moment := do
  let text ← value.text?
  let stamp ← Calendar.Stamp.read? text.toList
  stamp.instant?

def ofJson? (record : Json) : Option Response := do
  let status ← record.required? "status_code" readStatus?
  let body ← record.required? "body" Json.some?
  let receivedAt ← record.required? "received_at" readMoment?
  return ⟨status, body, receivedAt⟩

end Response

structure Listing where
  status : Nat
  modules : List Module

namespace Listing

def isSuccess (listing : Listing) : Bool := isSuccessStatus listing.status

def toJson (listing : Listing) : Json := .record [
  Json.fieldOf "status_code" (.ofNat listing.status),
  Json.fieldOf "modules" (.array (listing.modules.map Module.toJson))]

def ofJson? (record : Json) : Option Listing := do
  let status ← record.required? "status_code" readStatus?
  let modules ← record.required? "modules" (Json.list? Module.ofJson?)
  return ⟨status, modules⟩

end Listing

end GeoChain
