import GeoChain.Proofs.Graph.Given

/-!
# Graphs with increasing names

Graphs are only ever read from JSON or built argument by argument. Both keep the names of the
arguments of every node increasing, so the arguments of a node stand in the order of their names.
-/

namespace GeoChain

/-- The nodes that stand directly in an argument, in order. -/
def Argument.nested : Argument → List Node
  | .literal _ => []
  | .node nested => [nested]
  | .nodes nested => nested

namespace Node

/-- Induction on the nodes of a graph, from what is nested in a node to the node. -/
theorem nested_induction {P : Node → Prop}
    (step : ∀ process given, (∀ entry ∈ given, ∀ child ∈ entry.2.nested, P child) →
      P (.mk process given)) (graph : Node) : P graph := by
  refine @Node.rec P (fun argument => ∀ child ∈ argument.nested, P child)
    (fun given => ∀ entry ∈ given, ∀ child ∈ entry.2.nested, P child)
    (fun nested => ∀ child ∈ nested, P child) (fun entry => ∀ child ∈ entry.2.nested, P child)
    step ?_ ?_ ?_ ?_ ?_ ?_ ?_ ?_ graph
  · simp [Argument.nested]
  · intro nested ih
    simpa [Argument.nested] using ih
  · exact fun nested ih => ih
  · simp
  · intro first rest ihFirst ihRest entry member
    rcases List.mem_cons.mp member with rfl | member
    · exact ihFirst
    · exact ihRest entry member
  · simp
  · intro first rest ihFirst ihRest child member
    rcases List.mem_cons.mp member with rfl | member
    · exact ihFirst
    · exact ihRest child member
  · exact fun _ _ ih => ih

/-- The names of the arguments increase, at this node and at every node nested in it. -/
inductive Ordered : Node → Prop where
  | mk {process : ProcessId} {given : List (String × Argument)}
      (increasing : Keyed.Increasing given)
      (nested : ∀ entry ∈ given, ∀ child ∈ entry.2.nested, Ordered child) :
      Ordered (.mk process given)

/-- The graphs that there are: read from JSON, or built argument by argument. -/
inductive Built : Node → Prop where
  | read {value : Json} {node : Node} (reads : ofJson value = .ok node) : Built node
  | new (process : ProcessId) : Built (new process)
  | withLiteral {node : Node} (built : Built node) (name : String) (value : Json) :
      Built (node.withArgument name (.literal value))
  | withNode {node nested : Node} (built : Built node) (name : String) (inner : Built nested) :
      Built (node.withArgument name (.node nested))
  | withNodes {node : Node} (built : Built node) (name : String) (nested : List Node)
      (inner : ∀ child ∈ nested, Built child) : Built (node.withArgument name (.nodes nested))

/-- An argument of a node that was read was read from a value in it. -/
theorem argument_read {H : Json → Prop} (hereditary : Json.Hereditary H) {value : Json}
    (holds : H value) {node : Node} (reads : ofJson value = .ok node)
    {entry : String × Argument} (member : entry ∈ node.arguments) :
    ∃ held, H held ∧ Reads held entry.2 := by
  obtain ⟨name, argument⟩ := entry
  cases value with
  | object members =>
    obtain ⟨held, inside, read⟩ := (given_related reads).of_mem member
    exact ⟨held, given_hereditary hereditary holds inside, read⟩
  | null | bool | int | float | string | array => cases reads

/-- So was a node that stands in an argument. -/
theorem nested_read {H : Json → Prop} (hereditary : Json.Hereditary H) {value : Json}
    (holds : H value) {argument : Argument} (reads : Reads value argument) {child : Node}
    (inner : child ∈ argument.nested) : ∃ held, H held ∧ ofJson held = .ok child := by
  cases reads with
  | node _ read => exact ⟨value, holds, List.mem_singleton.mp inner ▸ read⟩
  | nodes _ read =>
    obtain ⟨item, inside, readItem⟩ := Keyed.exists_of_mem_right read inner
    exact ⟨item, hereditary holds inside, readItem⟩
  | literal _ _ => cases inner

/-- What holds of every argument, at this node and at every node nested in it. -/
inductive Every (P : Argument → Prop) : Node → Prop where
  | mk {process : ProcessId} {given : List (String × Argument)}
      (here : ∀ entry ∈ given, P entry.2)
      (nested : ∀ entry ∈ given, ∀ child ∈ entry.2.nested, Every P child) :
      Every P (.mk process given)

theorem Every.mono {P Q : Argument → Prop} {node : Node} (all : Every P node)
    (implies : ∀ argument, P argument → Q argument) : Every Q node := by
  induction all with
  | mk here _ ih => exact .mk (fun entry member => implies entry.2 (here entry member)) ih

/-- What holds of all that values read as holds of every argument of a node that was read. -/
theorem ofJson_every {H : Json → Prop} (hereditary : Json.Hereditary H) {P : Argument → Prop}
    (read : ∀ {value argument}, H value → Reads value argument → P argument) {value : Json}
    (holds : H value) {node : Node} (reads : ofJson value = .ok node) : Every P node := by
  induction node using nested_induction generalizing value with
  | step process given ih =>
    refine .mk ?_ ?_
    · intro entry member
      obtain ⟨held, inside, readHeld⟩ := argument_read hereditary holds reads member
      exact read inside readHeld
    · intro entry member child inner
      obtain ⟨held, inside, readHeld⟩ := argument_read hereditary holds reads member
      obtain ⟨record, within, readChild⟩ := nested_read hereditary inside readHeld inner
      exact ih entry member child inner within readChild

theorem ofJson_ordered {value : Json} {node : Node} (reads : ofJson value = .ok node) :
    Ordered node := by
  induction node using nested_induction generalizing value with
  | step process given ih =>
    have everything : Json.Hereditary fun _ => True := fun _ _ => trivial
    refine .mk (increasing_of_read reads) ?_
    intro entry member child inner
    obtain ⟨held, -, read⟩ := argument_read everything trivial reads member
    obtain ⟨record, -, readChild⟩ := nested_read everything trivial read inner
    exact ih entry member child inner readChild

theorem withArgument_ordered {node : Node} (ordered : Ordered node) (name : String)
    {argument : Argument} (nested : ∀ child ∈ argument.nested, Ordered child) :
    Ordered (node.withArgument name argument) := by
  obtain ⟨increasing, inner⟩ := ordered
  refine .mk (Keyed.increasing_insert name argument increasing) ?_
  intro entry member
  rcases Keyed.mem_insert member with rfl | member
  · exact nested
  · exact inner entry member

theorem Built.ordered {node : Node} (built : Built node) : Ordered node := by
  induction built with
  | read reads => exact ofJson_ordered reads
  | new process => exact .mk Keyed.increasing_nil (by simp)
  | withLiteral _ name value ih => exact withArgument_ordered ih name (by simp [Argument.nested])
  | withNode _ name _ ih inner =>
    exact withArgument_ordered ih name (by simpa [Argument.nested] using inner)
  | withNodes _ name nested _ ih inner => exact withArgument_ordered ih name inner

end Node

end GeoChain
