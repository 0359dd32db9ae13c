import GeoChain.Backend.Provider
import GeoChain.Backend.Settings
import GeoChain.Backend.Transport

/-!
# The client

A client sends requests to the endpoints below the URL of its settings. It exists only if the name
by which it calls itself can stand in a header. Chains are posted to the endpoint of their location;
the name of a location may not contain what would end the path or a segment of it.
-/

namespace GeoChain

/-- Whether a text can be the value of a header. -/
def isHeaderValue (text : String) : Bool :=
  text.toList.all fun c => c = '\t' || (' ' ≤ c && c ≠ '\x7f')

structure Client where
  settings : Settings
deriving DecidableEq, Repr

namespace Client

def new (settings : Settings) : Except BackendError Client :=
  if isHeaderValue settings.effectiveUserAgent then .ok ⟨settings⟩
  else .error (ClientError.transport .unbuildable).toBackend

/-- A client as messages show it. -/
def shown (client : Client) : String :=
  Text.shownRecord "ReqwestClient" [("config", client.settings.shown)] true

def endpoint (path : String) (client : Client) : Except BackendError Url :=
  match client.settings.base.join? path with
  | some url => .ok url
  | none => .error ClientError.notUrl.toBackend

def isLocationName (location : String) : Bool :=
  !location.isEmpty && location.toList.all fun c => c ≠ '/' && c ≠ '?' && c ≠ '#'

def locationRefused (location : String) : BackendError :=
  (BackendError.new .invalidInput).withMessage ("invalid location name '" ++ location ++ "'")

/-- The endpoint that takes chains for a location. -/
def processingEndpoint (location : String) (client : Client) : Except BackendError Url :=
  if isLocationName location then
    client.endpoint ("locations/" ++ location ++ "/processing_async_export")
  else .error (locationRefused location)

/-- The endpoint that lists the modules. -/
def listingEndpoint (client : Client) : Except BackendError Url := client.endpoint "modules"

def canSendTo (url : Url) : Bool := url.scheme = "http" || url.scheme = "https"

/-- A request to a URL, with the credentials of the settings. -/
def request (method : Method) (body : Option String) (url : Url) (client : Client) :
    Except ClientError Request :=
  if canSendTo url then
    .ok {
      method, url, body
      user := client.settings.user
      password := client.settings.password
      userAgent := client.settings.effectiveUserAgent
      timeout := client.settings.effectiveTimeout }
  else .error (.transport .unbuildable)

def submission (location : String) (chain : Chain) (client : Client) :
    Except BackendError Request := do
  let url ← client.processingEndpoint location
  (client.request .post (some chain.toJson.compact) url).mapError ClientError.toBackend

def inquiry (client : Client) : Except BackendError Request := do
  let url ← client.listingEndpoint
  (client.request .get none url).mapError ClientError.toBackend

def received {α : Type} (read : Reply → Except ClientError α)
    (reply : Except TransportFailure Reply) : Except BackendError α :=
  match reply with
  | .ok reply => (read reply).mapError ClientError.toBackend
  | .error failure => .error (ClientError.transport failure).toBackend

def readResponse (reply : Reply) : Except ClientError Response :=
  match reply.body with
  | .ok text => .ok (.ofText reply.status text reply.receivedAt)
  | .error failure => .error (.transport failure)

/-- The modules in the body of a listing. -/
def readModules? (text : String) : Option (List Module) :=
  (Json.read? text).bind fun body => body.defaulted? "processes" [] (Json.list? Module.ofJson?)

/-- A listing; the body counts only if the status means success. -/
def readListing (reply : Reply) : Except ClientError Listing :=
  if isSuccessStatus reply.status then
    match reply.body with
    | .error failure => .error (.transport failure)
    | .ok text =>
      match readModules? text with
      | some modules => .ok ⟨reply.status, modules⟩
      | none => .error .notJson
  else .ok ⟨reply.status, []⟩

variable {m : Type → Type} [Monad m]

/-- Sends a request that may not have come about, and reads the answer. -/
def exchange {α : Type} (transport : Transport m) (read : Reply → Except ClientError α)
    (request : Except BackendError Request) : m (Except BackendError α) :=
  match request with
  | .error cause => pure (.error cause)
  | .ok request => do return received read (← transport request)

def provider (transport : Transport m) (client : Client) : Provider m where
  submit location chain := exchange transport readResponse (client.submission location chain)
  list := exchange transport readListing client.inquiry

end Client

end GeoChain
