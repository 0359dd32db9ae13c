import GeoChain.Graph.Node
import GeoChain.Json.Record

/-!
# Reading a process graph

A node is a JSON object with a `process_id`. Its arguments stand in the maps `arguments` and `args`
or beside `process_id`; of an argument given twice, the one in a map counts, and `args` counts
before `arguments`. A member `result` is no argument. A value is read as a node if it is an object
with a `process_id`, as a list of nodes if it is a non-empty array of such objects, and as a literal
otherwise. Every value beside `process_id` is read before the maps, whether it counts or not.
-/

namespace GeoChain

namespace Keyed

/-- All values, or the first failure in key order. -/
def sequence {ε α : Type} :
    List (String × Except ε α) → Except ε (List (String × α))
  | [] => .ok []
  | (name, value) :: rest =>
    match value with
    | .error cause => .error cause
    | .ok value =>
      match sequence rest with
      | .error cause => .error cause
      | .ok values => .ok ((name, value) :: values)

end Keyed

namespace Node

def idKey : String := "process_id"

def argumentsKey : String := "arguments"

def argsKey : String := "args"

/-- Members of a node that are not arguments. -/
def isReserved (key : String) : Bool :=
  key = idKey || key = argumentsKey || key = argsKey || key = "result"

/-- Whether a value counts as a node, be it well formed or not. -/
def looksLikeNode : Json → Bool
  | .object members => (Keyed.find? idKey members).isSome
  | _ => false

/-- What the values in an object read as: those beside the maps, and those in the two maps. -/
structure Parts where
  beside : List (String × Except Malformed Argument)
  arguments : List (String × Except Malformed Argument)
  args : List (String × Except Malformed Argument)

def readId (members : List (String × Json)) : Except Malformed ProcessId :=
  match Keyed.find? idKey members with
  | some (.string text) => ProcessId.read text
  | some found => .error (.idNotText found)
  | none => .error .idMissing

/-- A map of arguments may be missing or null, but it is nothing else than an object. -/
def checkMap (key : String) (process : ProcessId) (members : List (String × Json)) :
    Except Malformed Unit :=
  match Keyed.find? key members with
  | none | some .null | some (.object _) => .ok ()
  | some found => .error (.argumentsNotObject key process.text found)

def assemble (members : List (String × Json)) (parts : Parts) : Except Malformed Node := do
  let process ← readId members
  checkMap argumentsKey process members
  checkMap argsKey process members
  let beside ← Keyed.sequence parts.beside
  let explicit ← Keyed.sequence (Keyed.overwrite (Keyed.ofList parts.arguments) parts.args)
  return mk process (Keyed.overwrite (Keyed.ofList beside) explicit)

mutual

def classify : Json → Except Malformed Argument
  | .object members =>
    if looksLikeNode (.object members) then (assemble members (parts members)).map .node
    else .ok (.literal (.object members))
  | .array items =>
    if !items.isEmpty && items.all looksLikeNode then (readNodes items).map .nodes
    else .ok (.literal (.array items))
  | value => .ok (.literal value)

def parts : List (String × Json) → Parts
  | [] => ⟨[], [], []⟩
  | (key, value) :: rest =>
    let others := parts rest
    if key = argumentsKey then { others with arguments := mapped value }
    else if key = argsKey then { others with args := mapped value }
    else if isReserved key then others
    else { others with beside := (key, classify value) :: others.beside }

/-- What the members of a map of arguments read as. -/
def mapped : Json → List (String × Except Malformed Argument)
  | .object members => classifyMembers members
  | _ => []

def classifyMembers : List (String × Json) → List (String × Except Malformed Argument)
  | [] => []
  | (key, value) :: rest => (key, classify value) :: classifyMembers rest

def readNodes : List Json → Except Malformed (List Node)
  | [] => .ok []
  | .object members :: rest =>
    match assemble members (parts members) with
    | .error cause => .error cause
    | .ok node => (readNodes rest).map (node :: ·)
  | value :: _ => .error (.notNode value)

end

def ofJson : Json → Except Malformed Node
  | .object members => assemble members (parts members)
  | .null => .error .empty
  | found => .error (.notNode found)

end Node

end GeoChain
