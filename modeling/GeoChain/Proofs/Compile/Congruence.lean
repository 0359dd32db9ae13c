import GeoChain.Proofs.Compile.Agreement
import GeoChain.Proofs.Related

/-!
# Nodes that compile alike

Of an argument a compilation sees its literal or the nodes in it, in order. So nodes of one process
compile alike if their arguments have the same names, the same literals, and nodes that compile
alike. That holds of one compiler, and of two that resolve the process alike.
-/

namespace GeoChain

theorem Argument.isNested_eq (argument : Argument) :
    argument.isNested = argument.literal?.isNone := by
  cases argument with
  | literal => rfl
  | node => rfl
  | nodes => rfl

namespace Compiler

variable {first second : Compiler}

/-- Two compilers give the same for two nodes, at any depth and in any context. -/
def Alike (first second : Compiler) (one other : Node) : Prop :=
  ∀ depth context, first.node depth one context = second.node depth other context

/-- Two arguments with the same literal, or with nodes that compile alike. -/
structure AlikeArguments (first second : Compiler) (one other : Argument) : Prop where
  literal : one.literal? = other.literal?
  nested : List.Forall₂ (Alike first second) one.nested other.nested

theorem nodes_alike {ones others : List Node} (same : List.Forall₂ (Alike first second) ones others)
    (depth : Nat) (context : Context) :
    first.nodes depth ones context = second.nodes depth others context := by
  induction same generalizing context with
  | nil => rfl
  | @cons one other rest _ here _ ih =>
    rw [nodes, nodes, here]
    rcases second.node depth other context with ⟨cause | product, after⟩
    · rfl
    · dsimp only
      rw [ih]

theorem argument_alike {one other : Argument} (same : AlikeArguments first second one other)
    (depth : Nat) (context : Context) :
    first.argument depth one context = second.argument depth other context := by
  by_cases nested : one.isNested
  · have alsoNested : other.isNested := by
      rw [Argument.isNested_eq, ← same.literal, ← Argument.isNested_eq]
      exact nested
    rw [argument_nested nested, argument_nested alsoNested, nodes_alike same.nested]
  · obtain ⟨literal, -⟩ := same
    cases one with
    | literal value =>
      cases other with
      | literal value =>
        cases literal
        rfl
      | node | nodes => cases literal
    | node | nodes => exact absurd rfl nested

theorem arguments_alike {given others : List (String × Argument)}
    (same : Keyed.Related (AlikeArguments first second) given others) (depth : Nat)
    (context : Context) :
    first.arguments depth given context = second.arguments depth others context := by
  induction same generalizing context with
  | nil => rfl
  | @cons entry another rest _ here _ ih =>
    obtain ⟨name, argument⟩ := entry
    obtain ⟨_, other⟩ := another
    obtain ⟨rfl, alike⟩ := here
    rw [arguments, arguments, argument_alike alike]
    rcases second.argument depth other context with ⟨cause | ⟨value, commands⟩, after⟩
    · rfl
    · dsimp only
      rw [ih]

theorem node_alike {process : ProcessId} {given others : List (String × Argument)}
    (limit : first.maxDepth = second.maxDepth)
    (resolves : first.catalog.resolve process.text = second.catalog.resolve process.text)
    (same : Keyed.Related (AlikeArguments first second) given others) :
    Alike first second (.mk process given) (.mk process others) := by
  intro depth context
  rw [node, node, limit, resolves]
  simp only [arguments_alike same]

end Compiler

end GeoChain
