import GeoChain.Proofs.Compile.Location
import GeoChain.Proofs.Compile.Numbering
import GeoChain.Proofs.Compile.Stretch
import Mathlib.Data.List.Forall2

/-!
# Parts of a graph

With the built-in processes and sequential step ids, a part of a graph compiles on its own as it
does inside of the graph. The calls are the same; only the numbers in the ids of their commands are
shifted by the number of commands before them. Nothing else of the context reaches the commands.
-/

namespace GeoChain

/-- A command with the number in its id shifted. -/
def Shifted (shift : Nat) (alone inner : Command) : Prop :=
  ∃ lead n, alone.id = lead ++ "_" ++ toString n ∧
    inner = { alone with id := lead ++ "_" ++ toString (n + shift) }

/-- The same event, of a graph whose root stands at a position of a larger graph. -/
def Event.below (start : Position) : Event → Event
  | enter position node => enter (start ++ position) node
  | leave position node => leave (start ++ position) node

namespace Node

theorem nodesEvents_below_eq {start position : Position} {name : String} {nodes : List Node}
    (ih : ∀ child ∈ nodes, ∀ position,
      child.events (start ++ position) = (child.events position).map (Event.below start))
    (place : Nat) : nodesEvents (start ++ position) name place nodes =
      (nodesEvents position name place nodes).map (Event.below start) := by
  induction nodes generalizing place with
  | nil => rfl
  | cons first rest ihRest =>
    obtain ⟨ihFirst, ihLater⟩ := List.forall_mem_cons.mp ih
    rw [nodesEvents, nodesEvents, List.map_append, ihRest ihLater, List.append_assoc, ihFirst]

theorem argumentsEvents_below_eq {start position : Position} {given : List (String × Argument)}
    (ih : ∀ entry ∈ given, ∀ child ∈ entry.2.nested, ∀ position,
      child.events (start ++ position) = (child.events position).map (Event.below start)) :
    argumentsEvents (start ++ position) given =
      (argumentsEvents position given).map (Event.below start) := by
  induction given with
  | nil => rfl
  | cons first rest ihRest =>
    obtain ⟨name, argument⟩ := first
    obtain ⟨ihFirst, ihLater⟩ := List.forall_mem_cons.mp ih
    rw [argumentsEvents, argumentsEvents, List.map_append, ihRest ihLater, argumentEvents_eq,
      argumentEvents_eq, nodesEvents_below_eq ihFirst]

/-- The walk through a graph is the same wherever its root stands. -/
theorem events_below (graph : Node) (start position : Position) :
    graph.events (start ++ position) = (graph.events position).map (Event.below start) := by
  induction graph using nested_induction generalizing position with
  | step process given ih =>
    rw [events, events, argumentsEvents_below_eq fun entry member child inside position =>
      ih entry member child inside position]
    simp [Event.below]

end Node

/-- The same call, made on its own and inside of a larger graph. -/
structure Call.Alike (start : Position) (shift : Nat) (alone inner : Call) : Prop where
  position : inner.position = start ++ alone.position
  arguments : inner.arguments = alone.arguments
  datasets : inner.product.datasets = alone.product.datasets
  commands : List.Forall₂ (Shifted shift) alone.product.commands inner.product.commands

/-- The run of a part on its own and inside of a larger graph, after the earlier calls. -/
structure Run.Alike (start : Position) (earlier : List Call) (alone inner : Run) : Prop where
  calls : ∃ own, inner.calls = earlier ++ own ∧
    List.Forall₂ (Call.Alike start (commandsOf earlier).length) alone.calls own
  ids : ∃ n, alone.context.ids = .sequential n ∧
    inner.context.ids = .sequential (n + (commandsOf earlier).length)

section Alike

variable {start : Position} {shift : Nat} {alone inner : List Call}

theorem datasetsAt_alike (alike : List.Forall₂ (Call.Alike start shift) alone inner)
    (position : Position) :
    datasetsAt inner (start ++ position) = datasetsAt alone position := by
  induction alike with
  | nil => rfl
  | @cons one other rest others same _ ih =>
    simp only [datasetsAt, List.find?_cons, same.position, List.append_cancel_left_eq] at ih ⊢
    by_cases here : one.position = position
    · simp [here, same.datasets]
    · simp [here, ih]

theorem commandsOf_alike (alike : List.Forall₂ (Call.Alike start shift) alone inner) :
    List.Forall₂ (Shifted shift) (commandsOf alone) (commandsOf inner) := by
  induction alike with
  | nil => exact .nil
  | cons same _ ih =>
    rw [commandsOf, List.flatMap_cons, commandsOf, List.flatMap_cons]
    exact List.rel_append same.commands ih

theorem number_shifted (lead : String) (commands : List Command) (n shift : Nat) :
    List.Forall₂ (Shifted shift) (number lead commands (.sequential n))
      (number lead commands (.sequential (n + shift))) := by
  induction commands generalizing n with
  | nil => exact .nil
  | cons command rest ih =>
    refine .cons ⟨lead, n, rfl, rfl⟩ ?_
    have next := ih (n + 1)
    rw [Nat.add_right_comm] at next
    exact next

end Alike

namespace Compiler

variable {maxDepth depth : Nat} {start : Position} {earlier : List Call} {alone inner after : Run}

theorem valuesAt_alike (untouched : Untouched start earlier)
    (alike : Run.Alike start earlier alone inner) (position : Position)
    (given : List (String × Argument)) :
    valuesAt inner.calls (start ++ position) given = valuesAt alone.calls position given := by
  obtain ⟨own, grown, same⟩ := alike.calls
  refine valuesAt_congr fun entry member i => ?_
  rw [grown, List.append_assoc, datasetsAt_append_left, datasetsAt_alike same]
  intro call among here
  exact untouched call among (here ▸ List.prefix_append _ _)

/-- What an event does inside of a larger graph it does on its own. -/
theorem carryOut_alike (untouched : Untouched start earlier)
    (alike : Run.Alike start earlier alone inner) {event : Event}
    (carried : carryOut ⟨Catalog.builtin, maxDepth⟩ depth inner (event.below start) = .ok after) :
    ∃ next, carryOut ⟨Catalog.builtin, maxDepth⟩ depth alone event = .ok next ∧
      Run.Alike start earlier next after := by
  cases event with
  | enter position node =>
    obtain ⟨shallow, known, rfl⟩ := carryOut_enter.mp carried
    rw [List.length_append] at shallow
    refine ⟨alone, carryOut_enter.mpr ⟨?_, known, rfl⟩, alike⟩
    dsimp only at shallow ⊢
    omega
  | leave position node =>
    obtain ⟨entry, product, context, found, called, nonempty, rfl⟩ := carryOut_leave.mp carried
    obtain ⟨draft, follows, -, -⟩ := Catalog.builtin_follows found
    -- The draft depends on the arguments alone, and these are the same on both sides.
    have values := valuesAt_alike untouched alike position node.arguments
    rw [values] at called ⊢
    obtain ⟨made, isDraft, rfl, rfl⟩ := follows.made called
    have calledAlone := follows.does alone.context isDraft
    refine ⟨_, carryOut_leave.mpr ⟨entry, _, _, found, calledAlone, nonempty, rfl⟩, ?_⟩
    obtain ⟨own, grown, same⟩ := alike.calls
    obtain ⟨n, idsAlone, idsInner⟩ := alike.ids
    constructor
    · refine ⟨own ++ [⟨start ++ position, _, made.product inner.context.ids⟩], ?_,
        List.rel_append same (.cons ⟨rfl, rfl, rfl, ?_⟩ .nil)⟩
      · rw [grown, List.append_assoc]
      · dsimp only [Draft.product]
        rw [idsAlone, idsInner]
        exact number_shifted _ _ n _
    · refine ⟨n + made.commands.length, ?_, ?_⟩
      · dsimp only [Draft.after]
        rw [idsAlone, IdSource.advanceBy_sequential]
      · dsimp only [Draft.after]
        rw [idsInner, IdSource.advanceBy_sequential, Nat.add_right_comm]

theorem through_alike (untouched : Untouched start earlier)
    (alike : Run.Alike start earlier alone inner) {events : List Event}
    (done : through ⟨Catalog.builtin, maxDepth⟩ depth (events.map (Event.below start)) inner =
      .ok after) :
    ∃ final, through ⟨Catalog.builtin, maxDepth⟩ depth events alone = .ok final ∧
      Run.Alike start earlier final after := by
  induction events generalizing alone inner with
  | nil =>
    cases done
    exact ⟨alone, rfl, alike⟩
  | cons event rest ih =>
    rw [List.map_cons] at done
    obtain ⟨middle, here, later⟩ := through_cons_ok.mp done
    obtain ⟨next, carried, alikeNext⟩ := carryOut_alike untouched alike here
    obtain ⟨final, ran, alikeFinal⟩ := ih alikeNext later
    exact ⟨final, through_cons_ok.mpr ⟨next, carried, ran⟩, alikeFinal⟩

/-- The run of a part inside of a graph is one stretch, and the run of the part on its own does the
same. -/
theorem run_part {graph part : Node} (ordered : graph.Ordered) {final : Run}
    (done : Compiler.run ⟨Catalog.builtin, maxDepth⟩ 1 graph (.new (.sequential 1)) = .ok final)
    {position : Position} (found : graph.at? position = some part) :
    ∃ alone earlier own later,
      Compiler.run ⟨Catalog.builtin, maxDepth⟩ 1 part (.new (.sequential 1)) = .ok alone ∧
      final.calls = earlier ++ own ++ later ∧
      List.Forall₂ (Call.Alike position (commandsOf earlier).length) alone.calls own ∧
      datasetsAt final.calls position = datasetsAt alone.calls [] := by
  obtain ⟨before, first, next, calls, later, early, here, grown, total, -, untouched, beyond⟩ :=
    run_stretch ordered done found
  have counted := (through_numbered [] numbered_nil early).counted
  have walk := part.events_below position []
  rw [List.append_nil] at walk
  rw [walk] at here
  have start : Run.Alike position first.calls ⟨[], .new (.sequential 1)⟩ first :=
    ⟨⟨[], by rw [List.append_nil], .nil⟩, ⟨1, rfl, counted⟩⟩
  obtain ⟨alone, ran, alike⟩ := through_alike untouched start here
  obtain ⟨own, added, same⟩ := alike.calls
  rw [added] at total
  refine ⟨alone, first.calls, own, later, ran, total, same, ?_⟩
  have here := datasetsAt_alike same []
  rw [List.append_nil] at here
  rw [total, datasetsAt_append_right beyond.unmade, datasetsAt_append_left untouched.unmade, here]

/-- A part of a graph that has a location has the same location. -/
theorem location_part {graph part : Node} (ordered : graph.Ordered) {final alone : Run}
    (done : Compiler.run ⟨Catalog.builtin, maxDepth⟩ 1 graph (.new (.sequential 1)) = .ok final)
    (ran : Compiler.run ⟨Catalog.builtin, maxDepth⟩ 1 part (.new (.sequential 1)) = .ok alone)
    {position : Position} (found : graph.at? position = some part) {location : String}
    (located : final.context.location = .ok location) :
    alone.context.location = .ok location := by
  obtain ⟨sorted, members⟩ := run_locations [] ordered done
  obtain ⟨sortedAlone, membersAlone⟩ := run_locations [] (ordered.at found) ran
  -- The part refers to some location, and only to those that the graph refers to.
  have only := (Context.eq_singleton_iff sorted).mp (Context.location_ok.mp located)
  have inside : ∀ other ∈ alone.context.locations, other = location := by
    intro other member
    obtain ⟨rest, node, reached, loads⟩ := (membersAlone other).mp member
    have refers : graph.Refers (Catalog.importing []) other :=
      ⟨position ++ rest, node, (Node.at?_append found).mpr reached, loads⟩
    exact (only other).mp ((members other).mpr refers)
  obtain ⟨other, member⟩ := List.exists_mem_of_ne_nil _ (run_located ran)
  refine Context.location_ok.mpr ((Context.eq_singleton_iff sortedAlone).mpr fun another => ?_)
  constructor
  · exact inside another
  · rintro rfl
    exact inside other member ▸ member

/-- What the parent of a part receives for the argument that the part stands in. -/
theorem call_of_parent {compiler : Compiler} {graph part : Node} (ordered : graph.Ordered)
    {context : Context} {final : Run} (done : compiler.run depth graph context = .ok final)
    {parent : Position} {name : String} {place : Nat}
    (found : graph.at? (parent ++ [(name, place)]) = some part) :
    ∃ call ∈ final.calls, call.position = parent ∧ ∃ count, place < count ∧
      call.arguments.get? name = some (.data ((List.range count).flatMap fun i =>
        datasetsAt final.calls (parent ++ [(name, i)]))) := by
  obtain ⟨node, reached, last⟩ := Node.at?_of_append found
  obtain ⟨argument, child, named, placed, -⟩ := Node.at?_cons.mp last
  obtain ⟨call, member, here, received⟩ := call_received ordered done reached
  obtain ⟨within, -⟩ := List.getElem?_eq_some_iff.mp placed
  have nested : argument.isNested := by
    cases argument with
    | literal value => simp [Argument.nested] at within
    | node inner => rfl
    | nodes inner => rfl
  refine ⟨call, member, here, argument.nested.length, within, ?_⟩
  rw [← valueAt_nested nested, received, Arguments.get?, valuesAt, Keyed.find?_map]
  rw [Node.argument?] at named
  rw [named, Option.map_some]

/-- Every part of a graph that compiles compiles on its own, with the location of the graph. Its
commands are one block of the commands of the graph, with the numbers in their ids shifted by the
number of commands before the block, and its outputs are what its parent receives. -/
theorem compile_part (maxDepth : Nat) {graph part : Node} (built : graph.Built) {plan : Plan}
    (compiled : compile ⟨Catalog.builtin, maxDepth⟩ (.sequential 1) graph = .ok plan)
    {position : Position} (found : graph.at? position = some part) :
    ∃ own before block after run,
      compile ⟨Catalog.builtin, maxDepth⟩ (.sequential 1) part = .ok own ∧
      own.location = plan.location ∧
      plan.commands = before ++ block ++ after ∧
      List.Forall₂ (Shifted before.length) own.commands block ∧
      Compiler.run ⟨Catalog.builtin, maxDepth⟩ 1 graph (.new (.sequential 1)) = .ok run ∧
      datasetsAt run.calls position = own.outputs ∧
      ∀ parent name place, position = parent ++ [(name, place)] →
        ∃ call ∈ run.calls, call.position = parent ∧ ∃ count, place < count ∧
          call.arguments.get? name = some (.data ((List.range count).flatMap fun i =>
            datasetsAt run.calls (parent ++ [(name, i)]))) := by
  have ordered := built.ordered
  obtain ⟨final, done, located, -, commands⟩ := (compile_ok ordered).mp compiled
  obtain ⟨alone, earlier, own, later, ran, total, alike, outputs⟩ := run_part ordered done found
  have locatedAlone := location_part ordered done ran found located
  refine ⟨⟨plan.location, datasetsAt alone.calls [], commandsOf alone.calls⟩, commandsOf earlier,
    commandsOf own, commandsOf later, final, ?_, rfl, ?_, commandsOf_alike alike, done, outputs, ?_⟩
  · exact (compile_ok (ordered.at found)).mpr ⟨alone, ran, locatedAlone, rfl, rfl⟩
  · rw [commands, total, commandsOf_append, commandsOf_append]
  · rintro parent name place rfl
    exact call_of_parent ordered done found

theorem seriesLoad_part : seriesMinimum.at? [("imagery", 0)] = some seriesLoad ∧
    ∃ own before block after,
      compile ⟨Catalog.builtin, 64⟩ (.sequential 1) seriesLoad = .ok own ∧
      own.location = seriesPlan.location ∧ seriesPlan.commands = before ++ block ++ after ∧
      List.Forall₂ (Shifted before.length) own.commands block := by
  have found : seriesMinimum.at? [("imagery", 0)] = some seriesLoad := rfl
  obtain ⟨own, before, block, after, run, compiles, location, commands, shifted, -⟩ :=
    compile_part 64 seriesMinimum_built seriesMinimum_compiles found
  exact ⟨found, own, before, block, after, compiles, location, commands, shifted⟩

end Compiler

end GeoChain
