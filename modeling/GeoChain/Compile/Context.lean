import GeoChain.Compile.Error
import GeoChain.Json.Record
import GeoChain.Uuid

/-!
# The state of a compilation

While a graph is compiled, the locations that its data live in are collected and every command gets
an id of its own: the process followed by a number that counts up, or by a random identifier. Random
identifiers come from a stream that is given from outside.
-/

namespace GeoChain

/-- How step ids are told apart. -/
inductive IdStrategy where
  | random
  | sequential
deriving DecidableEq, Repr

namespace IdStrategy

def text : IdStrategy → String
  | random => "random"
  | sequential => "sequential"

def read? : String → Option IdStrategy
  | "random" => some random
  | "sequential" => some sequential
  | _ => none

instance : Inhabited IdStrategy := ⟨random⟩

def toJson (strategy : IdStrategy) : Json := .string strategy.text

def ofJson? (value : Json) : Option IdStrategy := value.variant?.bind read?

end IdStrategy

/-- What the next step ids end in: a number, or the identifier of the stream that is next. -/
inductive IdSource where
  | sequential (next : Nat)
  | random (stream : Nat → Uuid) (drawn : Nat)

namespace IdSource

def ending : IdSource → String
  | sequential next => toString next
  | random stream drawn => (stream drawn).plainText

def advance : IdSource → IdSource
  | sequential next => sequential (next + 1)
  | random stream drawn => random stream (drawn + 1)

end IdSource

/-- The fresh source of a strategy. -/
def IdStrategy.source (stream : Nat → Uuid) : IdStrategy → IdSource
  | random => .random stream 0
  | sequential => .sequential 1

/-- The locations found so far, in order and each once, and the source of step ids. -/
structure Context where
  locations : List String
  ids : IdSource

namespace Context

def new (ids : IdSource) : Context := ⟨[], ids⟩

def insertLocation (location : String) : List String → List String
  | [] => [location]
  | other :: rest =>
    if location < other then location :: other :: rest
    else if other = location then other :: rest
    else other :: insertLocation location rest

def addLocation (location : String) (context : Context) : Context :=
  { context with locations := insertLocation location context.locations }

/-- The id of the next step of a process. -/
def stepId (lead : String) (context : Context) : String := lead ++ "_" ++ context.ids.ending

def advance (context : Context) : Context := { context with ids := context.ids.advance }

/-- The one location of all data. -/
def location (context : Context) : Except CompileError String :=
  match context.locations with
  | [] => .error .noData
  | [location] => .ok location
  | locations => .error (.severalLocations locations)

end Context

end GeoChain
