import GeoChain.Backend.Error
import GeoChain.Calendar.Date
import GeoChain.Url.Basic

/-!
# Requests and their failures

A request is sent by a transport, which may fail, and which may fail again while the body of the
answer is read. Every failure of the client becomes an error of the backend that keeps it as its
source. A failure says what went wrong; what exactly the transport says about it is its own matter.
-/

namespace GeoChain

/-- How a request is made. -/
inductive Method where
  | get
  | post
deriving DecidableEq, Repr

structure Request where
  method : Method
  url : Url
  user : String
  password : String
  userAgent : String
  /-- In seconds. -/
  timeout : Nat
  /-- The JSON text that is sent along. -/
  body : Option String
deriving DecidableEq, Repr

/-- What goes wrong on the way to the backend and back. -/
inductive TransportFailure where
  | timedOut
  | unreachable
  | undecodable
  | unbuildable
  | refused (status : Nat)
deriving DecidableEq, Repr

def TransportFailure.text : TransportFailure → String
  | timedOut => "operation timed out"
  | unreachable => "error sending request"
  | undecodable => "error decoding response body"
  | unbuildable => "builder error"
  | refused status => "HTTP status " ++ toString status

structure Reply where
  status : Nat
  body : Except TransportFailure String
  receivedAt : Calendar.Moment

/-- How requests are sent. -/
abbrev Transport (m : Type → Type) := Request → m (Except TransportFailure Reply)

/-- The failure that a status is, if it means one. -/
def TransportFailure.ofStatus? (status : Nat) : Option TransportFailure :=
  if 400 ≤ status ∧ status < 600 then some (.refused status) else none

/-- What fails in a client. -/
inductive ClientError where
  | transport (failure : TransportFailure)
  | notJson
  | notUrl
deriving DecidableEq, Repr

namespace ClientError

def label : ClientError → String
  | transport _ => "HTTP error"
  | notJson => "Serialization error"
  | notUrl => "Invalid endpoint"

def detail : ClientError → String
  | transport failure => failure.text
  | notJson => "invalid JSON"
  | notUrl => "invalid URL"

def text (error : ClientError) : String := error.label ++ ": " ++ error.detail

def kind : ClientError → BackendError.Kind
  | transport .timedOut => .timeout
  | transport .unreachable | transport (.refused _) => .networkError
  | transport .undecodable | notJson => .serialization
  | transport .unbuildable | notUrl => .configuration

def message : ClientError → String
  | transport .unreachable => "Connection failed"
  | error => error.detail

/-- The error of the backend that a failure of the client is. -/
def toBackend (error : ClientError) : BackendError :=
  ((BackendError.new error.kind).withMessage error.message).withSource error.detail

end ClientError

end GeoChain
