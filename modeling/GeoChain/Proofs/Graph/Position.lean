import GeoChain.Proofs.Graph.Ordered

/-!
# Positions in a process graph

A position is the way from the root of a graph to one of its nodes. In an ordered graph every node
has a position of its own.
-/

namespace GeoChain

/-- At every node on the way, the name of an argument and the place of the next node in it. -/
abbrev Position := List (String × Nat)

namespace Node

/-- The node at a position. -/
def at? : Position → Node → Option Node
  | [], node => some node
  | (name, place) :: rest, node =>
    (node.argument? name).bind fun argument => argument.nested[place]?.bind (at? rest)

@[simp] theorem at?_nil (node : Node) : node.at? [] = some node := rfl

theorem at?_cons {node sub : Node} {name : String} {place : Nat} {rest : Position} :
    node.at? ((name, place) :: rest) = some sub ↔
      ∃ argument child, node.argument? name = some argument ∧
        argument.nested[place]? = some child ∧ child.at? rest = some sub := by
  simp [at?, Option.bind_eq_some_iff]

theorem at?_append {node child sub : Node} {first rest : Position}
    (here : node.at? first = some child) :
    node.at? (first ++ rest) = some sub ↔ child.at? rest = some sub := by
  induction first generalizing node with
  | nil =>
    cases here
    rfl
  | cons step first ih =>
    obtain ⟨name, place⟩ := step
    obtain ⟨argument, next, named, placed, found⟩ := at?_cons.mp here
    rw [List.cons_append, at?_cons]
    constructor
    · rintro ⟨argument', next', named', placed', found'⟩
      cases named.symm.trans named'
      cases placed.symm.trans placed'
      exact (ih found).mp found'
    · intro below
      exact ⟨argument, next, named, placed, (ih found).mpr below⟩

/-- The way to a node leads through the nodes above it. -/
theorem at?_of_append {node sub : Node} {first rest : Position}
    (found : node.at? (first ++ rest) = some sub) :
    ∃ child, node.at? first = some child ∧ child.at? rest = some sub := by
  induction first generalizing node with
  | nil => exact ⟨node, rfl, found⟩
  | cons step first ih =>
    obtain ⟨name, place⟩ := step
    obtain ⟨argument, next, named, placed, below⟩ := at?_cons.mp found
    obtain ⟨child, reached, last⟩ := ih below
    exact ⟨child, at?_cons.mpr ⟨argument, next, named, placed, reached⟩, last⟩

theorem Ordered.child {process : ProcessId} {given : List (String × Argument)}
    (ordered : Ordered (.mk process given)) {entry : String × Argument} (member : entry ∈ given)
    {child : Node} (inner : child ∈ entry.2.nested) : Ordered child := by
  cases ordered with
  | mk _ nested => exact nested entry member child inner

theorem Ordered.increasing {node : Node} (ordered : Ordered node) :
    Keyed.Increasing node.arguments := by
  cases ordered with
  | mk increasing _ => exact increasing

theorem Ordered.at {graph sub : Node} (ordered : Ordered graph) {position : Position}
    (found : graph.at? position = some sub) : Ordered sub := by
  induction position generalizing graph with
  | nil =>
    cases found
    exact ordered
  | cons step rest ih =>
    obtain ⟨name, place⟩ := step
    obtain ⟨argument, child, named, placed, below⟩ := at?_cons.mp found
    obtain ⟨process, given⟩ := graph
    exact ih (ordered.child (Keyed.mem_of_find? named) (List.mem_of_getElem? placed)) below

end Node

end GeoChain
