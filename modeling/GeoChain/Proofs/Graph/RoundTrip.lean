import GeoChain.Proofs.Graph.Ordered

/-!
# Writing and reading again

The kind of an argument is not written. A record is read back as the node that it was written for if
and only if each literal is read as a literal and each list of nodes as a list of nodes, everywhere
in the node. That is so in every node that was read.
-/

namespace GeoChain

/-- Read back as an argument of its kind: no literal looks like a node or a list of nodes, and a
list of nodes is not empty. -/
def Argument.Recognizable : Argument → Prop
  | .literal value => ¬ value.NodeShaped ∧ ¬ value.NodeListShaped
  | .node _ => True
  | .nodes nested => nested ≠ []

/-- What is written for an argument if nodes are written in a certain way. -/
def Argument.written (write : Node → Json) : Argument → Json
  | .literal value => value
  | .node nested => write nested
  | .nodes nested => .array (nested.map write)

namespace Node

variable {write : Node → Json} {node : Node} {value : Json}

/-- A record that names the process of a node and its arguments, and nothing else. -/
inductive Recorded (write : Node → Json) (node : Node) : Json → Prop where
  | mk {members : List (String × Json)}
      (only : ∀ entry ∈ members, entry.1 = idKey ∨ entry.1 = argumentsKey)
      (named : Keyed.find? idKey members = some (.string node.process.text))
      (held : Keyed.find? argumentsKey members = some (.object
        (node.arguments.map fun entry => (entry.1, entry.2.written write)))) :
      Recorded write node (.object members)

theorem Recorded.shaped (recorded : Recorded write node value) : value.NodeShaped := by
  cases recorded with
  | mk _ named _ => exact looksLikeNode_iff.mp (by simp [looksLikeNode, named])

/-- A record is read back as its node if each argument in it is read back. -/
theorem Recorded.read_iff (recorded : Recorded write node value)
    (increasing : Keyed.Increasing node.arguments) : ofJson value = .ok node ↔
      ∀ entry ∈ node.arguments, Reads (entry.2.written write) entry.2 := by
  cases recorded with
  | @mk members only named held =>
    have flat : beside members = [] := by
      rw [beside, List.filter_eq_nil_iff]
      intro entry member
      rcases only entry member with same | same <;> simp [isReserved, same]
    have missing : Keyed.find? argsKey members = none := by
      cases found : Keyed.find? argsKey members with
      | none => rfl
      | some other => simpa [argsKey, idKey, argumentsKey] using only _ (Keyed.mem_of_find? found)
    have maps : explicit members =
        node.arguments.map fun entry => (entry.1, entry.2.written write) := by
      rw [explicit, mapAt, mapAt, held, missing]
      exact Keyed.ofList_of_increasing ((Keyed.increasing_map _).mpr increasing)
    rw [ofJson_object, flat, maps, held, missing]
    -- Nothing stands beside the maps, so all that is read comes from the map of arguments.
    constructor
    · rintro ⟨-, -, -, beside, mapped, none, related, same⟩
      cases none
      have settled : Keyed.ofList mapped = mapped := Keyed.ofList_of_increasing
        (related.increasing ((Keyed.increasing_map _).mpr increasing))
      rw [show node.arguments = mapped from same.trans settled] at related ⊢
      exact Keyed.related_self.mp ((Keyed.related_map_left _).mp related)
    · intro reads
      exact ⟨named, .inr (.inr ⟨_, rfl⟩), .inl rfl, [], node.arguments, .nil,
        (Keyed.related_map_left _).mpr (Keyed.related_self.mpr reads),
        (Keyed.ofList_of_increasing increasing).symm⟩

theorem written_reads {argument : Argument}
    (shaped : ∀ child ∈ argument.nested, (write child).NodeShaped) :
    Reads (argument.written write) argument ↔ argument.Recognizable ∧
      ∀ child ∈ argument.nested, ofJson (write child) = .ok child := by
  cases argument with
  | literal value =>
    constructor
    · intro reads
      cases reads with
      | literal single several => exact ⟨⟨single, several⟩, by simp [Argument.nested]⟩
    · rintro ⟨⟨single, several⟩, -⟩
      exact .literal single several
  | node nested =>
    rw [Argument.nested, List.forall_mem_singleton] at *
    rw [Argument.written]
    generalize write nested = value at shaped ⊢
    constructor
    · intro reads
      cases reads with
      | node _ read => exact ⟨trivial, read⟩
    · rintro ⟨-, read⟩
      exact .node shaped read
  | nodes nested =>
    rw [Argument.nested] at *
    constructor
    · intro reads
      cases reads with
      | nodes several read =>
        refine ⟨fun empty => several.1 (by rw [empty, List.map_nil]), ?_⟩
        exact List.forall₂_same.mp (List.forall₂_map_left_iff.mp read)
    · rintro ⟨several, read⟩
      refine .nodes ⟨fun empty => several (List.map_eq_nil_iff.mp empty), by simpa using shaped⟩ ?_
      exact List.forall₂_map_left_iff.mpr (List.forall₂_same.mpr read)

/-- Where every node is written as a record, what is written for a node is read back as the node if
and only if each of its arguments can be recognized. -/
theorem read_back (write : Node → Json) (Fit : Node → Prop)
    (recorded : ∀ node, Fit node → Recorded write node (write node))
    (increasing : ∀ node, Fit node → Keyed.Increasing node.arguments)
    (inner : ∀ node, Fit node → ∀ entry ∈ node.arguments, ∀ child ∈ entry.2.nested, Fit child)
    (fit : Fit node) : ofJson (write node) = .ok node ↔ node.Every Argument.Recognizable := by
  induction node using nested_induction with
  | step process given ih =>
    have fits : ∀ entry ∈ given, ∀ child ∈ entry.2.nested, Fit child := inner _ fit
    have shaped : ∀ entry ∈ given, ∀ child ∈ entry.2.nested, (write child).NodeShaped :=
      fun entry member child inside => (recorded child (fits entry member child inside)).shaped
    rw [(recorded _ fit).read_iff (increasing _ fit)]
    constructor
    · intro reads
      refine .mk ?_ ?_
      · intro entry member
        exact ((written_reads (shaped entry member)).mp (reads entry member)).1
      · intro entry member child inside
        have read := ((written_reads (shaped entry member)).mp (reads entry member)).2
        exact (ih entry member child inside (fits entry member child inside)).mp
          (read child inside)
    · rintro ⟨here, nested⟩ entry member
      refine (written_reads (shaped entry member)).mpr ⟨here entry member, ?_⟩
      intro child inside
      exact (ih entry member child inside (fits entry member child inside)).mpr
        (nested entry member child inside)

theorem argumentsJson_eq (given : List (String × Argument)) : argumentsJson given =
    given.map fun entry => (entry.1, entry.2.written toJson) := by
  have list : ∀ nested : List Node, listJson nested = nested.map toJson := by
    intro nested
    induction nested with
    | nil => rfl
    | cons first rest ih => rw [listJson, ih, List.map_cons]
  induction given with
  | nil => rfl
  | cons entry rest ih =>
    obtain ⟨name, argument⟩ := entry
    rw [argumentsJson, ih, List.map_cons]
    cases argument with
    | literal value => rfl
    | node nested => rfl
    | nodes nested => rw [argumentJson, list, Argument.written]

theorem toJson_recorded (node : Node) : Recorded toJson node node.toJson := by
  obtain ⟨process, given⟩ := node
  rw [toJson, argumentsJson_eq]
  refine .mk ?_ rfl rfl
  intro entry member
  rcases List.mem_pair.mp member with rfl | rfl
  · exact .inl rfl
  · exact .inr rfl

theorem recognizable_of_reads {argument : Argument} (reads : Reads value argument) :
    argument.Recognizable := by
  cases reads with
  | node _ _ => trivial
  | nodes several read =>
    rintro rfl
    cases read
    exact several.1 rfl
  | literal single several => exact ⟨single, several⟩

/-- What is written for a graph is read back as the graph if and only if each literal and each list
of nodes in it can be recognized, which is so in every graph that was read. -/
theorem toJson_read_back :
    (∀ node : Node, node.Built →
      (ofJson node.toJson = .ok node ↔ node.Every Argument.Recognizable)) ∧
    ∀ value node, ofJson value = .ok node →
      node.Every Argument.Recognizable ∧ ofJson node.toJson = .ok node := by
  have exact : ∀ node : Node, node.Ordered →
      (ofJson node.toJson = .ok node ↔ node.Every Argument.Recognizable) := by
    intro node ordered
    refine read_back toJson Ordered (fun node _ => toJson_recorded node) ?_ ?_ ordered
    · rintro _ ⟨increasing, -⟩
      exact increasing
    · rintro _ ⟨-, nested⟩
      exact nested
  refine ⟨fun node built => exact node built.ordered, ?_⟩
  intro value node reads
  have everything : Json.Hereditary fun _ => True := fun _ _ => trivial
  have recognizable : node.Every Argument.Recognizable :=
    ofJson_every everything (fun _ => recognizable_of_reads) trivial reads
  exact ⟨recognizable, (exact node (ofJson_ordered reads)).mpr recognizable⟩

/-- A node whose arguments have the names of the members of a node. -/
def reservedNames : Json := .object [
  ("arguments", .object [
    ("args", .int 1),
    ("arguments", .null),
    ("process_id", .string "get_data"),
    ("result", .object [("process_id", .string "get_data")])]),
  ("process_id", .string "min_time")]

/-- A literal that looks like a node. -/
def disguised : Node :=
  (new (.sanitize "min_time")).withArgument "imagery" (.literal (.object [("process_id", .null)]))

theorem reservedNames_read_back :
    (∃ node, ofJson reservedNames = .ok node ∧
      Keyed.names node.arguments = ["args", "arguments", "process_id", "result"] ∧
      ofJson node.toJson = .ok node) ∧
    disguised.Built ∧ ofJson disguised.toJson ≠ .ok disguised := by
  have built : disguised.Built := .withLiteral (.new _) _ _
  refine ⟨⟨_, rfl, rfl, (toJson_read_back.2 reservedNames _ rfl).2⟩, built, ?_⟩
  intro read
  obtain ⟨here, -⟩ := (toJson_read_back.1 disguised built).mp read
  exact (here _ List.mem_cons_self).1 List.mem_cons_self

end Node

end GeoChain
