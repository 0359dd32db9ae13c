import GeoChain.Json.Record
import GeoChain.Text.Shown
import GeoChain.Url.Reader

/-!
# Settings of the client

Where the backend is, who asks, for how long to wait, and by which name the client calls itself.
A timeout of zero means the standard one. The password is never shown.
-/

namespace GeoChain

structure Settings where
  url : Url
  user : String
  password : String
  /-- In seconds. -/
  timeout : Nat
  userAgent : Option String
deriving DecidableEq, Repr

namespace Settings

/-- The backend on this machine, `http://127.0.0.1:8088/api/v3/`. -/
def standardUrl : Url where
  scheme := "http"
  username := []
  password := []
  host := some "127.0.0.1".toList
  port := some 8088
  path := .segments ["api".toList, "v3".toList, []]
  query := none
  fragment := none

/-- The standard user, and the standard password. -/
def standardCredential : String := "actinia-gdi"

def standardTimeout : Nat := 30

def standardUserAgent : String := "openeo-actinia/0.1.0"

def forUrl (url : Url) : Settings :=
  ⟨url, standardCredential, standardCredential, standardTimeout, none⟩

def standard : Settings := forUrl standardUrl

def withCredentials (user password : String) (settings : Settings) : Settings :=
  { settings with user, password }

/-- The timeout that holds. -/
def effectiveTimeout (settings : Settings) : Nat :=
  if settings.timeout = 0 then standardTimeout else settings.timeout

/-- The name that the client gives. -/
def effectiveUserAgent (settings : Settings) : String :=
  settings.userAgent.getD standardUserAgent

/-- The URL that endpoints are relative to. -/
def base (settings : Settings) : Url := settings.url.directory

def shown (settings : Settings) : String :=
  Text.shownRecord "ReqwestConfig" [
    ("actinia_url", Text.shown settings.url.text),
    ("actinia_user", Text.shown settings.user),
    ("actinia_password", Text.shown "<redacted>"),
    ("http_timeout", toString settings.timeout),
    ("user_agent", Text.shownOption settings.userAgent)] false

def toJson (settings : Settings) : Json := .record [
  Json.fieldOf "actinia_url" (.string settings.url.text),
  Json.fieldOf "actinia_user" (.string settings.user),
  Json.fieldOf "actinia_password" (.string settings.password),
  Json.fieldOf "http_timeout" (.ofNat settings.timeout),
  Json.fieldOf "user_agent" ((settings.userAgent.map Json.string).getD .null)]

def readUrl? (value : Json) : Option Url := value.text?.bind Url.read?

/-- Timeouts have 64 bits. -/
def readTimeout? (value : Json) : Option Nat := value.natBelow? (Nat.pow 2 64)

def ofJson? (record : Json) : Option Settings := do
  let url ← record.defaulted? "actinia_url" standardUrl readUrl?
  let user ← record.defaulted? "actinia_user" standardCredential Json.text?
  let password ← record.defaulted? "actinia_password" standardCredential Json.text?
  let timeout ← record.defaulted? "http_timeout" standardTimeout readTimeout?
  let userAgent ← record.optional? "user_agent" Json.text?
  return ⟨url, user, password, timeout, userAgent⟩

end Settings

end GeoChain
