import GeoChain.Graph.Reader
import GeoChain.Uuid

/-!
# Stored graphs

A stored graph is a process graph under an identifier, with an optional title and description. The
identifier is a fixed lead followed by a UUID; it is written in the canonical spelling and read in
any spelling of the UUID.
-/

namespace GeoChain

structure GraphId where
  uuid : Uuid
deriving DecidableEq

namespace GraphId

inductive Problem where
  | missingLead
  | invalidUuid
deriving DecidableEq, Repr

def lead : String := "user-graph::"

def text (id : GraphId) : String := lead ++ id.uuid.text

def Problem.message : Problem → String
  | .missingLead => "graph id must start with '" ++ lead ++ "'"
  | .invalidUuid => "invalid graph id"

/-- What follows a lead, if the characters start with it. -/
def afterLead? : (lead chars : List Char) → Option (List Char)
  | [], chars => some chars
  | c :: lead, d :: chars => if c = d then afterLead? lead chars else none
  | _ :: _, [] => none

def read (text : String) : Except Problem GraphId :=
  match afterLead? lead.toList text.toList with
  | none => .error .missingLead
  | some chars =>
    match Uuid.ofChars? chars with
    | none => .error .invalidUuid
    | some uuid => .ok ⟨uuid⟩

def ofJson? (value : Json) : Option GraphId := value.text?.bind fun text => (read text).toOption

end GraphId

structure StoredGraph where
  id : GraphId
  title : Option String
  description : Option String
  graph : Node
deriving DecidableEq

namespace StoredGraph

def new (id : GraphId) (graph : Node) : StoredGraph := ⟨id, none, none, graph⟩

def withTitle (title : String) (stored : StoredGraph) : StoredGraph :=
  { stored with title := some title }

def withDescription (description : String) (stored : StoredGraph) : StoredGraph :=
  { stored with description := some description }

def toJson (stored : StoredGraph) : Json := .record [
  Json.fieldOf "id" (.string stored.id.text),
  Json.fieldIf "title" .string stored.title,
  Json.fieldIf "description" .string stored.description,
  Json.fieldOf "process_graph" stored.graph.toJson]

def ofJson? (record : Json) : Option StoredGraph := do
  let id ← record.required? "id" GraphId.ofJson?
  let title ← record.optional? "title" Json.text?
  let description ← record.optional? "description" Json.text?
  let graph ← record.required? "process_graph" (fun value => (Node.ofJson value).toOption)
  return ⟨id, title, description, graph⟩

end StoredGraph

end GeoChain
