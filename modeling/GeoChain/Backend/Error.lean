/-!
# Errors of the backend

An error has a kind, perhaps a message, and perhaps the text of what lies behind it. Repeating the
call may help only if the backend could not be reached or did not answer in time.
-/

namespace GeoChain

namespace BackendError

inductive Kind where
  | invalidInput
  | networkError
  | timeout
  | serialization
  | configuration
  | externalError
  | unknown
deriving DecidableEq, Repr

namespace Kind

def text : Kind → String
  | invalidInput => "invalid_input"
  | networkError => "network_error"
  | timeout => "timeout"
  | serialization => "serialization"
  | configuration => "configuration"
  | externalError => "external_error"
  | unknown => "unknown"

/-- The kind as messages show it. -/
def label : Kind → String
  | invalidInput => "InvalidInput"
  | networkError => "NetworkError"
  | timeout => "Timeout"
  | serialization => "Serialization"
  | configuration => "Configuration"
  | externalError => "ExternalError"
  | unknown => "Unknown"

def all : List Kind :=
  [invalidInput, networkError, timeout, serialization, configuration, externalError, unknown]

def read? (name : String) : Option Kind := all.find? (fun kind => kind.text = name)

def isRetryable : Kind → Bool
  | networkError | timeout => true
  | invalidInput | serialization | configuration | externalError | unknown => false

end Kind

end BackendError

structure BackendError where
  kind : BackendError.Kind
  message : Option String
  source : Option String
deriving DecidableEq, Repr

namespace BackendError

def new (kind : Kind) : BackendError := ⟨kind, none, none⟩

def withMessage (message : String) (error : BackendError) : BackendError :=
  { error with message := some message }

def withSource (source : String) (error : BackendError) : BackendError :=
  { error with source := some source }

def isRetryable (error : BackendError) : Bool := error.kind.isRetryable

/-- The kind and the message, without what lies behind them. -/
def text (error : BackendError) : String :=
  match error.message with
  | some message => error.kind.label ++ ": " ++ message
  | none => error.kind.label

/-- The error and what lies behind it, the nearest first. -/
def causes (error : BackendError) : List String := error.text :: error.source.toList

/-- What the error says in words of its own: if something lies behind it, then the message was made
there, and only the kind remains. -/
def summary (error : BackendError) : String :=
  match error.source with
  | some _ => error.kind.label
  | none => error.text

end BackendError

end GeoChain
