import GeoChain.Proofs.Compile.Congruence
import GeoChain.Proofs.Compile.Origin
import GeoChain.Proofs.Graph.Position

/-!
# Lists of one node

An argument that is one nested node can be given as that node or as the list of just that node. The
compilation does not tell the two apart: whichever arguments of a graph are given the other way, and
wherever they stand, the graph compiles to the same plan, or fails with the same error. No emitter
has to cooperate.
-/

namespace GeoChain

namespace Argument

/-- A node as the list of just that node, and such a list as the node. -/
def respelled : Argument → Argument
  | .node nested => .nodes [nested]
  | .nodes [nested] => .node nested
  | .nodes [] => .nodes []
  | .nodes (first :: second :: rest) => .nodes (first :: second :: rest)
  | .literal value => .literal value

theorem nested_respelled (argument : Argument) : argument.respelled.nested = argument.nested := by
  rcases argument with value | nested | (_ | ⟨first, _ | ⟨second, rest⟩⟩)
  all_goals rfl

theorem literal?_respelled (argument : Argument) :
    argument.respelled.literal? = argument.literal? := by
  rcases argument with value | nested | (_ | ⟨first, _ | ⟨second, rest⟩⟩)
  all_goals rfl

end Argument

namespace Node

mutual

/-- Gives the chosen arguments the other way. An argument is chosen by the position of its node and
by its name. -/
def respell (chosen : Position → String → Bool) (position : Position) : Node → Node
  | mk process arguments => mk process (respellArguments chosen position arguments)

def respellArguments (chosen : Position → String → Bool) (position : Position) :
    List (String × Argument) → List (String × Argument)
  | [] => []
  | (name, argument) :: rest =>
    let inner := respellArgument chosen position name argument
    (name, if chosen position name then inner.respelled else inner) ::
      respellArguments chosen position rest

def respellArgument (chosen : Position → String → Bool) (position : Position) (name : String) :
    Argument → Argument
  | .literal value => .literal value
  | .node nested => .node (respell chosen (position ++ [(name, 0)]) nested)
  | .nodes nested => .nodes (respellNodes chosen position name 0 nested)

def respellNodes (chosen : Position → String → Bool) (position : Position) (name : String)
    (place : Nat) : List Node → List Node
  | [] => []
  | node :: rest =>
    respell chosen (position ++ [(name, place)]) node ::
      respellNodes chosen position name (place + 1) rest

end

end Node

namespace Compiler

variable {compiler : Compiler} {chosen : Position → String → Bool}

theorem respellNodes_alike {nested : List Node}
    (same : ∀ child ∈ nested, ∀ position,
      Alike compiler compiler (child.respell chosen position) child)
    (position : Position) (name : String) (place : Nat) :
    List.Forall₂ (Alike compiler compiler) (Node.respellNodes chosen position name place nested)
      nested := by
  induction nested generalizing place with
  | nil => exact .nil
  | cons child rest ih =>
    obtain ⟨here, later⟩ := List.forall_mem_cons.mp same
    exact .cons (here _) (ih later (place + 1))

theorem respellArgument_alike {argument : Argument}
    (same : ∀ child ∈ argument.nested, ∀ position,
      Alike compiler compiler (child.respell chosen position) child) (position : Position)
    (name : String) : AlikeArguments compiler compiler
      (Node.respellArgument chosen position name argument) argument := by
  cases argument with
  | literal value => exact ⟨rfl, .nil⟩
  | node inner => exact ⟨rfl, .cons (same inner List.mem_cons_self _) .nil⟩
  | nodes inner => exact ⟨rfl, respellNodes_alike same position name 0⟩

theorem respellArguments_alike {given : List (String × Argument)}
    (same : ∀ entry ∈ given, ∀ child ∈ entry.2.nested, ∀ position,
      Alike compiler compiler (child.respell chosen position) child) (position : Position) :
    Keyed.Related (AlikeArguments compiler compiler) (Node.respellArguments chosen position given)
      given := by
  induction given with
  | nil => exact .nil
  | cons first rest ih =>
    obtain ⟨name, argument⟩ := first
    obtain ⟨here, later⟩ := List.forall_mem_cons.mp same
    have inner := respellArgument_alike here position name
    refine .cons ⟨rfl, ?_⟩ (ih later)
    dsimp only
    split
    · exact ⟨by rw [Argument.literal?_respelled, inner.literal],
        by rw [Argument.nested_respelled]; exact inner.nested⟩
    · exact inner

theorem respell_alike (graph : Node) (position : Position) :
    Alike compiler compiler (graph.respell chosen position) graph := by
  induction graph using Node.nested_induction generalizing position with
  | step process given ih => exact node_alike rfl rfl (respellArguments_alike ih position)

/-- Arguments that are one nested node can be given as the list of just that node and the other way
round, anywhere in a graph and whichever: its compilation gives the same plan, or the same error. -/
theorem compile_respell (compiler : Compiler) (ids : IdSource) (graph : Node)
    (chosen : Position → String → Bool) :
    compiler.compile ids (graph.respell chosen []) = compiler.compile ids graph := by
  rw [compile, compile, respell_alike graph [] 1 (.new ids)]

end Compiler

/-- The only argument of the root is given as a list, and as a node again. -/
example : Compiler.seriesMinimum.respell (fun position _ => position = []) [] =
      (Node.new (.sanitize Process.MinTime.name)).withArgument "imagery"
        (.nodes [Compiler.seriesLoad]) ∧
    (Compiler.seriesMinimum.respell (fun position _ => position = []) []).respell
      (fun _ _ => true) [] = Compiler.seriesMinimum := by
  decide +kernel

end GeoChain
