import GeoChain.Proofs.Compile.Run

/-!
# The stretch of a node

The events of a node and of the nodes nested in it are one stretch of a walk, and so their calls are
one stretch of a run. No call outside of the stretch belongs to one of them. Therefore a node
receives exactly what the nodes in its arguments made, however the run goes on.
-/

namespace GeoChain

namespace Node

variable {graph part : Node} {position : Position} {before after : List Event}

/-- The positions at and below a node are left in its own stretch of the walk. -/
theorem left_of_below (ordered : graph.Ordered) (found : graph.at? position = some part)
    {other : Position} (left : other ∈ leftPositions (graph.events []))
    (below : position <+: other) : other ∈ leftPositions (part.events position) := by
  obtain ⟨rest, rfl⟩ := below
  obtain ⟨node, member⟩ := mem_leftPositions.mp left
  obtain ⟨whole, same, reached⟩ := (leave_mem_events ordered).mp member
  rw [List.nil_append] at same
  subst same
  have inner := (at?_append found).mp reached
  exact mem_leftPositions.mpr
    ⟨node, (leave_mem_events (ordered.at found)).mpr ⟨rest, rfl, inner⟩⟩

theorem outside_stretch (ordered : graph.Ordered) (found : graph.at? position = some part)
    (split : graph.events [] = before ++ part.events position ++ after) :
    (∀ other ∈ leftPositions before, ¬ position <+: other) ∧
      ∀ other ∈ leftPositions after, ¬ position <+: other := by
  have nodup := leftPositions_nodup ordered []
  have inside : ∀ other ∈ leftPositions (graph.events []), position <+: other →
      other ∈ leftPositions (part.events position) :=
    fun other left below => left_of_below ordered found left below
  rw [split, leftPositions_append, leftPositions_append] at nodup inside
  rw [List.nodup_append, List.nodup_append] at nodup
  obtain ⟨⟨-, -, early⟩, -, late⟩ := nodup
  constructor
  · intro other member below
    have stretch := inside other (List.mem_append_left _ (List.mem_append_left _ member)) below
    exact early other member other stretch rfl
  · intro other member below
    have stretch := inside other (List.mem_append_right _ member) below
    exact late other (List.mem_append_right _ stretch) other member rfl

end Node

namespace Compiler

variable {compiler : Compiler} {depth : Nat}

/-- The calls of a node and of those nested in it are one stretch of the calls of a run. -/
theorem run_stretch {graph part : Node} (ordered : graph.Ordered) {context : Context}
    {final : Run} (done : compiler.run depth graph context = .ok final) {position : Position}
    (found : graph.at? position = some part) :
    ∃ before first next calls later,
      compiler.through depth before ⟨[], context⟩ = .ok first ∧
      compiler.through depth (part.events position) first = .ok next ∧
      next.calls = first.calls ++ calls ∧ final.calls = next.calls ++ later ∧
      calls.map (·.position) = leftPositions (part.events position) ∧
      Untouched position first.calls ∧ Untouched position later := by
  obtain ⟨before, after, split⟩ := Node.events_split found []
  rw [List.nil_append] at split
  obtain ⟨outside, beyond⟩ := Node.outside_stretch ordered found split
  rw [run, split, List.append_assoc, through_append_ok] at done
  obtain ⟨first, early, rest⟩ := done
  obtain ⟨next, here, late⟩ := through_append_ok.mp rest
  obtain ⟨earlier, grownFirst, positionsFirst⟩ := through_calls early
  obtain ⟨calls, grown, positions⟩ := through_calls here
  obtain ⟨later, grownLater, positionsLater⟩ := through_calls late
  refine ⟨before, first, next, calls, later, early, here, grown, grownLater, positions, ?_, ?_⟩
  · intro call member
    rw [grownFirst, List.nil_append] at member
    exact outside _ (positionsFirst ▸ List.mem_map_of_mem member)
  · intro call member
    exact beyond _ (positionsLater ▸ List.mem_map_of_mem member)

/-- How a run called the emitter of a node: which calls were made before, and in which context. The
node was called with what the nodes in its arguments made. -/
theorem call_executed {graph node : Node} (ordered : graph.Ordered) {context : Context}
    {final : Run} (done : compiler.run depth graph context = .ok final) {position : Position}
    (found : graph.at? position = some node) :
    ∃ before call later events early late entry, final.calls = before ++ call :: later ∧
      call.position = position ∧ call.arguments = argumentsAt final.calls position node ∧
      compiler.through depth events ⟨[], context⟩ = .ok ⟨before, early⟩ ∧
      compiler.catalog.find? node.process.text = some entry ∧
      (entry.emitter call.arguments).execute early = (.ok call.product, late) ∧
      datasetsAt final.calls position = call.product.datasets ∧ call.product.datasets ≠ [] := by
  obtain ⟨events, first, next, calls, later, ran, here, -, grown, -, -, beyond⟩ :=
    run_stretch ordered done found
  obtain ⟨process, given⟩ := node
  rw [Node.events, ← List.cons_append, through_append_ok] at here
  obtain ⟨middle, inner, left⟩ := here
  rw [through_singleton] at left
  obtain ⟨entry, product, after, resolved, called, nonempty, rfl⟩ := carryOut_leave.mp left
  rw [List.append_assoc, List.singleton_append] at grown
  have received : valuesAt middle.calls position given = valuesAt final.calls position given := by
    rw [grown]
    refine valuesAt_congr fun entry member i => ?_
    refine (datasetsAt_append_right fun call among same => ?_).symm
    rcases List.mem_cons.mp among with rfl | among
    · exact absurd same (by simp)
    · exact beyond call among (same ▸ List.prefix_append _ _)
  have nodup : (final.calls.map (·.position)).Nodup :=
    positions_of_run done ▸ Node.leftPositions_nodup ordered []
  refine ⟨middle.calls, _, later, _, middle.context, after, entry, grown, rfl, ?_,
    through_append_ok.mpr ⟨first, ran, inner⟩, resolved, called, ?_, nonempty⟩
  · rw [argumentsAt]
    exact congrArg _ received
  · exact datasetsAt_of_mem nodup (grown ▸ List.mem_append_right _ List.mem_cons_self)

/-- Every node is called with what the nodes in its arguments made. -/
theorem call_received {graph node : Node} (ordered : graph.Ordered) {context : Context}
    {final : Run} (done : compiler.run depth graph context = .ok final) {position : Position}
    (found : graph.at? position = some node) : ∃ call ∈ final.calls, call.position = position ∧
      call.arguments = ⟨node.process, valuesAt final.calls position node.arguments⟩ := by
  obtain ⟨before, call, later, -, -, -, -, grown, here, given, -⟩ :=
    call_executed ordered done found
  exact ⟨call, grown ▸ List.mem_append_right _ List.mem_cons_self, here, given⟩

/-- What a node receives was made by a node in one of its arguments. -/
theorem nested_at_of_received {graph node : Node} (ordered : graph.Ordered) {position : Position}
    (found : graph.at? position = some node) {calls : List Call} {dataset : String}
    (member : dataset ∈ ModuleRun.received (valuesAt calls position node.arguments)) :
    ∃ entry ∈ node.arguments, ∃ child ∈ entry.2.nested, ∃ below,
      graph.at? below = some child ∧ dataset ∈ datasetsAt calls below := by
  obtain ⟨entry, among, place, within, here⟩ := nested_of_received member
  have named := Keyed.find?_of_mem (ordered.at found).increasing among
  have placed := List.getElem?_eq_getElem within
  refine ⟨entry, among, _, List.getElem_mem within, position ++ [(entry.1, place)], ?_, here⟩
  exact (Node.at?_append found).mpr (Node.at?_cons.mpr ⟨entry.2, _, named, placed, rfl⟩)

/-- What holds of every dataset that a node makes, if it holds of those that the node receives,
holds of every dataset of a run. -/
theorem datasetsAt_induction {P : String → Prop} {graph : Node} (ordered : graph.Ordered)
    {context : Context} {final : Run} (done : compiler.run depth graph context = .ok final)
    (step : ∀ {position node entry early late product}, graph.at? position = some node →
      compiler.catalog.find? node.process.text = some entry →
      (entry.emitter (argumentsAt final.calls position node)).execute early =
        (.ok product, late) →
      (∀ dataset ∈ ModuleRun.received (valuesAt final.calls position node.arguments), P dataset) →
      ∀ dataset ∈ product.datasets, P dataset)
    {position : Position} {node : Node} (found : graph.at? position = some node) :
    ∀ dataset ∈ datasetsAt final.calls position, P dataset := by
  induction node using Node.nested_induction generalizing position with
  | step process given ih =>
    obtain ⟨before, call, later, events, early, late, entry, -, -, arguments, -, resolved, called,
      datasets, -⟩ := call_executed ordered done found
    rw [arguments] at called
    rw [datasets]
    refine step found resolved called fun dataset member => ?_
    obtain ⟨held, among, child, inside, below, reached, here⟩ :=
      nested_at_of_received ordered found member
    exact ih held among child inside reached dataset here

end Compiler

end GeoChain
