import GeoChain.Graph.ProcessId

/-!
# Process graphs

A process graph is a tree of nodes. A node names a process and gives it arguments in key order. An
argument is a literal JSON value, the result of one other node, or the results of a list of nodes.
-/

namespace GeoChain

mutual

inductive Node where
  | mk (process : ProcessId) (arguments : List (String × Argument))

inductive Argument where
  | literal (value : Json)
  | node (nested : Node)
  | nodes (nested : List Node)

end

mutual

def Node.decEq : (a b : Node) → Decidable (a = b)
  | .mk p as, .mk q bs =>
    match Node.decEqArguments as bs with
    | isTrue tail =>
      if head : p = q then isTrue (head ▸ tail ▸ rfl)
      else isFalse (fun eq => head (Node.mk.inj eq).1)
    | isFalse apart => isFalse (fun eq => apart (Node.mk.inj eq).2)

def Node.decEqArguments : (a b : List (String × Argument)) → Decidable (a = b)
  | [], [] => isTrue rfl
  | [], _ :: _ => isFalse nofun
  | _ :: _, [] => isFalse nofun
  | (k, a) :: as, (l, b) :: bs =>
    match Argument.decEq a b, Node.decEqArguments as bs with
    | isTrue head, isTrue tail =>
      if key : k = l then isTrue (key ▸ head ▸ tail ▸ rfl)
      else isFalse (fun eq => key (Prod.mk.inj (List.cons.inj eq).1).1)
    | isFalse apart, _ => isFalse (fun eq => apart (Prod.mk.inj (List.cons.inj eq).1).2)
    | _, isFalse apart => isFalse (fun eq => apart (List.cons.inj eq).2)

def Argument.decEq : (a b : Argument) → Decidable (a = b)
  | .literal a, .literal b =>
    if same : a = b then isTrue (same ▸ rfl) else isFalse (fun eq => same (Argument.literal.inj eq))
  | .node a, .node b =>
    match Node.decEq a b with
    | isTrue same => isTrue (same ▸ rfl)
    | isFalse apart => isFalse (fun eq => apart (Argument.node.inj eq))
  | .nodes a, .nodes b =>
    match Node.decEqList a b with
    | isTrue same => isTrue (same ▸ rfl)
    | isFalse apart => isFalse (fun eq => apart (Argument.nodes.inj eq))
  | .literal _, .node _ | .literal _, .nodes _ | .node _, .literal _ | .node _, .nodes _
  | .nodes _, .literal _ | .nodes _, .node _ => isFalse nofun

def Node.decEqList : (a b : List Node) → Decidable (a = b)
  | [], [] => isTrue rfl
  | [], _ :: _ => isFalse nofun
  | _ :: _, [] => isFalse nofun
  | a :: as, b :: bs =>
    match Node.decEq a b, Node.decEqList as bs with
    | isTrue head, isTrue tail => isTrue (head ▸ tail ▸ rfl)
    | isFalse apart, _ => isFalse (fun eq => apart (List.cons.inj eq).1)
    | _, isFalse apart => isFalse (fun eq => apart (List.cons.inj eq).2)

end

instance : DecidableEq Node := Node.decEq

instance : DecidableEq Argument := Argument.decEq

namespace Argument

def isNested : Argument → Bool
  | literal _ => false
  | node _ | nodes _ => true

def literal? : Argument → Option Json
  | literal value => some value
  | node _ | nodes _ => none

end Argument

namespace Node

def process : Node → ProcessId
  | mk process _ => process

def arguments : Node → List (String × Argument)
  | mk _ arguments => arguments

/-- A node without arguments. -/
def new (process : ProcessId) : Node := mk process []

/-- Gives an argument, in place of an earlier one of that name. -/
def withArgument (name : String) (argument : Argument) : Node → Node
  | mk process arguments => mk process (Keyed.insert name argument arguments)

def argument? (name : String) (node : Node) : Option Argument := Keyed.find? name node.arguments

/-- Whether no argument is the result of another node. -/
def isSource (node : Node) : Bool := node.arguments.all (fun entry => !entry.2.isNested)

mutual

/-- The number of nodes of the tree. -/
def count : Node → Nat
  | mk _ arguments => 1 + countArguments arguments

def countArguments : List (String × Argument) → Nat
  | [] => 0
  | (_, argument) :: rest => countArgument argument + countArguments rest

def countArgument : Argument → Nat
  | .literal _ => 0
  | .node nested => count nested
  | .nodes nested => countList nested

def countList : List Node → Nat
  | [] => 0
  | node :: rest => count node + countList rest

end

mutual

/-- The JSON record of a node, its process first. -/
def toJson : Node → Json
  | mk process arguments =>
    .object [("process_id", .string process.text), ("arguments", .object (argumentsJson arguments))]

def argumentsJson : List (String × Argument) → List (String × Json)
  | [] => []
  | (name, argument) :: rest => (name, argumentJson argument) :: argumentsJson rest

def argumentJson : Argument → Json
  | .literal value => value
  | .node nested => toJson nested
  | .nodes nested => .array (listJson nested)

def listJson : List Node → List Json
  | [] => []
  | node :: rest => toJson node :: listJson rest

end

end Node

end GeoChain
