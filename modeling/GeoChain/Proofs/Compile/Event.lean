import GeoChain.Proofs.Graph.Position

/-!
# The walk through a graph

A graph is walked from its root: a node is entered, the nodes nested in it are walked, argument by
argument and in one argument in list order, and then the node is left. In an ordered graph every
node is left once, at its own position.
-/

namespace GeoChain

inductive Event where
  | enter (position : Position) (node : Node)
  | leave (position : Position) (node : Node)

/-- The position that is left. -/
def Event.left? : Event → Option Position
  | enter _ _ => none
  | leave position _ => some position

/-- The positions that are left, in order. -/
def leftPositions (events : List Event) : List Position := events.filterMap Event.left?

theorem leftPositions_append (first rest : List Event) :
    leftPositions (first ++ rest) = leftPositions first ++ leftPositions rest :=
  List.filterMap_append

theorem mem_leftPositions {events : List Event} {position : Position} :
    position ∈ leftPositions events ↔ ∃ node, .leave position node ∈ events := by
  rw [leftPositions, List.mem_filterMap]
  constructor
  · rintro ⟨event, member, left⟩
    cases event with
    | enter => cases left
    | leave _ node =>
      cases left
      exact ⟨node, member⟩
  · rintro ⟨node, member⟩
    exact ⟨_, member, rfl⟩

namespace Node

mutual

/-- The events of the walk through a graph whose root stands at a position. -/
def events (position : Position) : Node → List Event
  | .mk process given => .enter position (.mk process given) ::
      (argumentsEvents position given ++ [.leave position (.mk process given)])

def argumentsEvents (position : Position) : List (String × Argument) → List Event
  | [] => []
  | (name, argument) :: rest =>
    argumentEvents position name argument ++ argumentsEvents position rest

def argumentEvents (position : Position) (name : String) : Argument → List Event
  | .literal _ => []
  | .node nested => events (position ++ [(name, 0)]) nested
  | .nodes nested => nodesEvents position name 0 nested

/-- The walk through a list of nodes, of which the first has the given place. -/
def nodesEvents (position : Position) (name : String) (place : Nat) : List Node → List Event
  | [] => []
  | first :: rest =>
    events (position ++ [(name, place)]) first ++ nodesEvents position name (place + 1) rest

end

theorem argumentEvents_eq (position : Position) (name : String) (argument : Argument) :
    argumentEvents position name argument = nodesEvents position name 0 argument.nested := by
  cases argument with
  | literal => rfl
  | node nested => simp [argumentEvents, Argument.nested, nodesEvents]
  | nodes nested => rfl

/-- An event in the walk through a list of nodes belongs to one of them. -/
theorem mem_nodesEvents {event : Event} {position : Position} {name : String} {place : Nat}
    {nodes : List Node} : event ∈ nodesEvents position name place nodes ↔
      ∃ i child, nodes[i]? = some child ∧
        event ∈ events (position ++ [(name, place + i)]) child := by
  induction nodes generalizing place with
  | nil => simp [nodesEvents]
  | cons first rest ih =>
    rw [nodesEvents, List.mem_append, ih]
    constructor
    · rintro (here | ⟨i, child, placed, inner⟩)
      · exact ⟨0, first, rfl, here⟩
      · have shift : place + 1 + i = place + (i + 1) := by omega
        exact ⟨i + 1, child, placed, shift ▸ inner⟩
    · rintro ⟨i, child, placed, inner⟩
      cases i with
      | zero =>
        cases placed
        exact Or.inl inner
      | succ i =>
        have shift : place + (i + 1) = place + 1 + i := by omega
        exact Or.inr ⟨i, child, placed, shift ▸ inner⟩

theorem mem_argumentsEvents {event : Event} {position : Position}
    {given : List (String × Argument)} : event ∈ argumentsEvents position given ↔
      ∃ entry ∈ given, ∃ i child, entry.2.nested[i]? = some child ∧
        event ∈ events (position ++ [(entry.1, i)]) child := by
  induction given with
  | nil => simp [argumentsEvents]
  | cons first rest ih =>
    obtain ⟨name, argument⟩ := first
    rw [argumentsEvents, List.mem_append, ih, argumentEvents_eq, mem_nodesEvents]
    simp only [Nat.zero_add, List.mem_cons, exists_eq_or_imp]

/-- A node is left at its own position. -/
theorem leave_mem_events {graph : Node} (ordered : graph.Ordered) {start position : Position}
    {node : Node} : .leave position node ∈ graph.events start ↔
      ∃ rest, position = start ++ rest ∧ graph.at? rest = some node := by
  induction graph using nested_induction generalizing start with
  | step process given ih =>
    simp only [events, List.mem_cons, List.mem_append, List.not_mem_nil, or_false, reduceCtorEq,
      false_or, mem_argumentsEvents]
    constructor
    · rintro (⟨entry, member, i, child, placed, inner⟩ | here)
      · have inside := List.mem_of_getElem? placed
        obtain ⟨rest, rfl, found⟩ := (ih entry member child inside
          (ordered.child member inside)).mp inner
        refine ⟨(entry.1, i) :: rest, by simp, at?_cons.mpr ?_⟩
        exact ⟨entry.2, child, Keyed.find?_of_mem ordered.increasing member, placed, found⟩
      · cases here
        exact ⟨[], by simp, rfl⟩
    · rintro ⟨rest, rfl, found⟩
      cases rest with
      | nil =>
        cases found
        exact Or.inr (by simp)
      | cons step rest =>
        obtain ⟨name, i⟩ := step
        obtain ⟨argument, child, named, placed, below⟩ := at?_cons.mp found
        have member := Keyed.mem_of_find? named
        have inside := List.mem_of_getElem? placed
        refine Or.inl ⟨(name, argument), member, i, child, placed, ?_⟩
        exact (ih _ member child inside (ordered.child member inside)).mpr ⟨rest, by simp, below⟩

theorem leftPositions_below {graph : Node} (ordered : graph.Ordered) {start position : Position}
    (left : position ∈ leftPositions (graph.events start)) : start <+: position := by
  obtain ⟨node, member⟩ := mem_leftPositions.mp left
  obtain ⟨rest, rfl, -⟩ := (leave_mem_events ordered).mp member
  exact List.prefix_append _ _

theorem nodesEvents_below {start position : Position} {name : String} {place : Nat}
    {nodes : List Node} (ordered : ∀ child ∈ nodes, child.Ordered)
    (left : position ∈ leftPositions (nodesEvents start name place nodes)) :
    ∃ i, place ≤ i ∧ start ++ [(name, i)] <+: position := by
  obtain ⟨node, member⟩ := mem_leftPositions.mp left
  obtain ⟨i, child, placed, inner⟩ := mem_nodesEvents.mp member
  have tidy := ordered child (List.mem_of_getElem? placed)
  exact ⟨place + i, by omega, leftPositions_below tidy (mem_leftPositions.mpr ⟨node, inner⟩)⟩

theorem argumentsEvents_below {start position : Position} {given : List (String × Argument)}
    (ordered : ∀ entry ∈ given, ∀ child ∈ entry.2.nested, child.Ordered)
    (left : position ∈ leftPositions (argumentsEvents start given)) :
    ∃ entry ∈ given, ∃ i, start ++ [(entry.1, i)] <+: position := by
  obtain ⟨node, member⟩ := mem_leftPositions.mp left
  obtain ⟨entry, among, i, child, placed, inner⟩ := mem_argumentsEvents.mp member
  have tidy := ordered entry among child (List.mem_of_getElem? placed)
  exact ⟨entry, among, i, leftPositions_below tidy (mem_leftPositions.mpr ⟨node, inner⟩)⟩

/-- Two steps from one node to the same position are one step. -/
theorem step_unique {start position : Position} {first second : String × Nat}
    (one : start ++ [first] <+: position) (other : start ++ [second] <+: position) :
    first = second := by
  have nested := List.prefix_of_prefix_length_le one other (by simp)
  have same := nested.eq_of_length (by simp)
  simpa using same

theorem nodesEvents_nodup {start : Position} {name : String} {nodes : List Node}
    (ordered : ∀ child ∈ nodes, child.Ordered)
    (ih : ∀ child ∈ nodes, ∀ position, (leftPositions (child.events position)).Nodup)
    (place : Nat) : (leftPositions (nodesEvents start name place nodes)).Nodup := by
  induction nodes generalizing place with
  | nil => exact List.nodup_nil
  | cons first rest ihRest =>
    obtain ⟨tidy, tidyRest⟩ := List.forall_mem_cons.mp ordered
    obtain ⟨ihFirst, ihLater⟩ := List.forall_mem_cons.mp ih
    rw [nodesEvents, leftPositions_append]
    refine List.nodup_append.mpr ⟨ihFirst _, ihRest tidyRest ihLater (place + 1), ?_⟩
    rintro position here other later rfl
    obtain ⟨i, after, below⟩ := nodesEvents_below tidyRest later
    have same : place = i := congrArg Prod.snd (step_unique (leftPositions_below tidy here) below)
    omega

theorem argumentsEvents_nodup {start : Position} {given : List (String × Argument)}
    (increasing : Keyed.Increasing given)
    (ordered : ∀ entry ∈ given, ∀ child ∈ entry.2.nested, child.Ordered)
    (ih : ∀ entry ∈ given, ∀ child ∈ entry.2.nested, ∀ position,
      (leftPositions (child.events position)).Nodup) :
    (leftPositions (argumentsEvents start given)).Nodup := by
  induction given with
  | nil => exact List.nodup_nil
  | cons first rest ihRest =>
    obtain ⟨name, argument⟩ := first
    obtain ⟨above, tail⟩ := Keyed.increasing_cons.mp increasing
    obtain ⟨tidy, tidyRest⟩ := List.forall_mem_cons.mp ordered
    obtain ⟨ihFirst, ihLater⟩ := List.forall_mem_cons.mp ih
    rw [argumentsEvents, argumentEvents_eq, leftPositions_append]
    refine List.nodup_append.mpr
      ⟨nodesEvents_nodup tidy ihFirst 0, ihRest tail tidyRest ihLater, ?_⟩
    rintro position here other later rfl
    obtain ⟨i, -, one⟩ := nodesEvents_below tidy here
    obtain ⟨entry, among, j, below⟩ := argumentsEvents_below tidyRest later
    have same : name = entry.1 := congrArg Prod.fst (step_unique one below)
    exact String.ne_of_lt (above entry among) same

theorem leftPositions_mk (start : Position) (process : ProcessId)
    (given : List (String × Argument)) : leftPositions (events start (.mk process given)) =
      leftPositions (argumentsEvents start given) ++ [start] := by
  rw [events, leftPositions, List.filterMap_cons_none rfl, List.filterMap_append]
  rfl

/-- No position is left twice. -/
theorem leftPositions_nodup {graph : Node} (ordered : graph.Ordered) (start : Position) :
    (leftPositions (graph.events start)).Nodup := by
  induction graph using nested_induction generalizing start with
  | step process given ih =>
    obtain ⟨increasing, nested⟩ := ordered
    rw [leftPositions_mk]
    refine List.nodup_append.mpr ⟨?_, by simp, ?_⟩
    · exact argumentsEvents_nodup increasing nested fun entry member child inside =>
        ih entry member child inside (nested entry member child inside)
    · rintro position here other later rfl
      obtain ⟨entry, -, i, below⟩ := argumentsEvents_below nested here
      have short := below.length_le
      rw [List.mem_singleton.mp later, List.length_append, List.length_singleton] at short
      omega

theorem length_nodesEvents {start : Position} {name : String} {nodes : List Node}
    (ih : ∀ child ∈ nodes, ∀ position, (leftPositions (child.events position)).length = child.count)
    (place : Nat) :
    (leftPositions (nodesEvents start name place nodes)).length = countList nodes := by
  induction nodes generalizing place with
  | nil => rfl
  | cons first rest ihRest =>
    obtain ⟨ihFirst, ihLater⟩ := List.forall_mem_cons.mp ih
    rw [nodesEvents, leftPositions_append, List.length_append, ihFirst, ihRest ihLater, countList]

theorem countArgument_eq (argument : Argument) :
    countArgument argument = countList argument.nested := by
  cases argument with
  | literal => rfl
  | node nested => simp [countArgument, Argument.nested, countList]
  | nodes nested => rfl

theorem length_argumentsEvents {start : Position} {given : List (String × Argument)}
    (ih : ∀ entry ∈ given, ∀ child ∈ entry.2.nested, ∀ position,
      (leftPositions (child.events position)).length = child.count) :
    (leftPositions (argumentsEvents start given)).length = countArguments given := by
  induction given with
  | nil => rfl
  | cons first rest ihRest =>
    obtain ⟨name, argument⟩ := first
    obtain ⟨ihFirst, ihLater⟩ := List.forall_mem_cons.mp ih
    rw [argumentsEvents, argumentEvents_eq, leftPositions_append, List.length_append,
      length_nodesEvents ihFirst, ihRest ihLater, countArguments, countArgument_eq]

/-- As many positions are left as there are nodes. -/
theorem length_leftPositions (graph : Node) (start : Position) :
    (leftPositions (graph.events start)).length = graph.count := by
  induction graph using nested_induction generalizing start with
  | step process given ih =>
    rw [leftPositions_mk, List.length_append, length_argumentsEvents ih, count,
      List.length_singleton, Nat.add_comm]

theorem nodesEvents_split (start : Position) (name : String) (place : Nat) {i : Nat}
    {nodes : List Node} {child : Node} (placed : nodes[i]? = some child) : ∃ before after,
      nodesEvents start name place nodes =
        before ++ child.events (start ++ [(name, place + i)]) ++ after := by
  induction nodes generalizing place i with
  | nil => simp at placed
  | cons first rest ih =>
    cases i with
    | zero =>
      cases placed
      exact ⟨[], nodesEvents start name (place + 1) rest, rfl⟩
    | succ i =>
      obtain ⟨before, after, split⟩ := ih (place + 1) placed
      have shift : place + 1 + i = place + (i + 1) := by omega
      refine ⟨first.events (start ++ [(name, place)]) ++ before, after, ?_⟩
      rw [nodesEvents, split, shift]
      simp only [List.append_assoc]

theorem argumentsEvents_split (start : Position) {given : List (String × Argument)}
    {name : String} {argument : Argument} (member : (name, argument) ∈ given) {i : Nat}
    {child : Node} (placed : argument.nested[i]? = some child) : ∃ before after,
      argumentsEvents start given =
        before ++ child.events (start ++ [(name, i)]) ++ after := by
  induction given with
  | nil => simp at member
  | cons first rest ih =>
    rcases List.mem_cons.mp member with rfl | later
    · obtain ⟨before, after, split⟩ := nodesEvents_split start name 0 placed
      refine ⟨before, after ++ argumentsEvents start rest, ?_⟩
      rw [argumentsEvents, argumentEvents_eq, split, Nat.zero_add]
      simp only [List.append_assoc]
    · obtain ⟨other, held⟩ := first
      obtain ⟨before, after, split⟩ := ih later
      refine ⟨argumentEvents start other held ++ before, after, ?_⟩
      rw [argumentsEvents, split]
      simp only [List.append_assoc]

/-- The walk through a part of a graph is one stretch of the walk through the graph. -/
theorem events_split {graph part : Node} {position : Position}
    (found : graph.at? position = some part) (start : Position) : ∃ before after,
      graph.events start = before ++ part.events (start ++ position) ++ after := by
  induction position generalizing graph start with
  | nil =>
    cases found
    exact ⟨[], [], by simp⟩
  | cons step rest ih =>
    obtain ⟨name, i⟩ := step
    obtain ⟨argument, child, named, placed, below⟩ := at?_cons.mp found
    obtain ⟨process, given⟩ := graph
    have member : (name, argument) ∈ given := Keyed.mem_of_find? named
    obtain ⟨before, after, split⟩ := argumentsEvents_split start member placed
    obtain ⟨inner, outer, deeper⟩ := ih below (start ++ [(name, i)])
    refine ⟨.enter start (.mk process given) :: (before ++ inner),
      outer ++ after ++ [.leave start (.mk process given)], ?_⟩
    rw [events, split, deeper]
    simp

end Node

end GeoChain
