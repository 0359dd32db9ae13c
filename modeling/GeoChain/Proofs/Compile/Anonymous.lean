import GeoChain.Proofs.Compile.ModuleNaming
import Mathlib.Data.List.Nodup

/-!
# What step ids reach

A compilation is made anonymous by leaving out the ids of its commands. What is left does not depend
on where the ids come from, so long as no module has to name its outputs after its step: a built-in
process never does, and a module only if it declares outputs and receives no data. A module receives
data whenever a node stands in one of its arguments.
-/

namespace GeoChain

/-- The command without its id. -/
def Command.anonymous (command : Command) : Command := { command with id := "" }

/-- The plan without the ids of its commands. -/
def Plan.anonymous (plan : Plan) : Plan :=
  { plan with commands := plan.commands.map Command.anonymous }

def Product.anonymous (product : Product) : Product :=
  { product with commands := product.commands.map Command.anonymous }

def Call.anonymous (call : Call) : Call := { call with product := call.product.anonymous }

/-- The calls of a run without ids, and the locations that it found. -/
def Run.anonymous (run : Run) : List Call × List String :=
  (run.calls.map Call.anonymous, run.context.locations)

theorem number_anonymous (lead : String) (commands : List Command) (ids : IdSource) :
    (number lead commands ids).map Command.anonymous = commands.map Command.anonymous := by
  induction commands generalizing ids with
  | nil => rfl
  | cons command rest ih =>
    rw [number, List.map_cons, List.map_cons, ih]
    rfl

theorem commandsOf_anonymous (calls : List Call) :
    (commandsOf calls).map Command.anonymous = commandsOf (calls.map Call.anonymous) := by
  rw [commandsOf, commandsOf, List.map_flatMap, List.flatMap_map]
  rfl

theorem datasetsAt_anonymous (calls : List Call) (position : Position) :
    datasetsAt (calls.map Call.anonymous) position = datasetsAt calls position := by
  have found : (calls.map Call.anonymous).find? (fun call => call.position = position) =
      (calls.find? fun call => call.position = position).map Call.anonymous := List.find?_map
  rw [datasetsAt, datasetsAt, found]
  cases calls.find? fun call => call.position = position with
  | none => rfl
  | some call => rfl

theorem valuesAt_anonymous {one other : List Call}
    (same : one.map Call.anonymous = other.map Call.anonymous) (position : Position)
    (given : List (String × Argument)) :
    valuesAt one position given = valuesAt other position given := by
  refine valuesAt_congr fun entry _ i => ?_
  rw [← datasetsAt_anonymous one, same, datasetsAt_anonymous]

/-- A draft takes no notice of the id of its first step. -/
def Draft.Steady (draft : Arguments → String → Except CompileError Draft) (arguments : Arguments) :
    Prop :=
  ∀ stepId other, draft arguments stepId = draft arguments other

/-- A module that receives data names its outputs after it, and not after its step. -/
theorem ModuleRun.draft_steady {run : ModuleRun} {arguments : Arguments}
    (supplied : run.outputs ≠ [] → received arguments.values ≠ []) :
    Draft.Steady run.draft arguments := by
  intro stepId other
  rw [draft, draft]
  by_cases silent : run.outputs = []
  · simp only [silent, List.isEmpty_nil, if_true]
  · simp only [base_of_data (supplied silent)]

/-- The node runs a module that declares outputs. -/
def Node.Declares (modules : List Module) (node : Node) : Prop :=
  ∃ entry, (Catalog.importing modules).find? node.process.text = some entry ∧
    entry ∈ Catalog.entriesOf modules ∧
    ∃ run : ModuleRun, entry.emitter = run.emit ∧ run.outputs ≠ []

/-- A call that runs a module with outputs receives data. -/
def Supplied (modules : List Module) (calls : List Call) (position : Position) (node : Node) :
    Prop :=
  node.Declares modules → ModuleRun.received (valuesAt calls position node.arguments) ≠ []

theorem Supplied.steady {modules : List Module} {calls : List Call} {position : Position}
    {node : Node} (supplied : Supplied modules calls position node) {entry : Entry}
    (found : (Catalog.importing modules).find? node.process.text = some entry) :
    ∃ draft, entry.emitter.Follows draft ∧
      Draft.Steady draft ⟨node.process, valuesAt calls position node.arguments⟩ := by
  rcases Catalog.mem_registerAll (Catalog.mem_of_find? found) with imported | builtIn
  · obtain ⟨run, runs⟩ := Catalog.mem_entriesOf imported
    exact ⟨run.draft, runs ▸ run.emit_follows, ModuleRun.draft_steady fun speaks =>
      supplied ⟨entry, found, imported, run, runs, speaks⟩⟩
  · obtain ⟨draft, follows, -⟩ := Process.builtins_follow (Catalog.mem_builtin builtIn)
    exact ⟨_, follows, fun _ _ => rfl⟩

namespace Compiler

/-- What is left of the end of a run without ids: the error, or the calls and the locations. -/
def stripped : Except (CompileError × Context) Run → Except CompileError (List Call × List String)
  | .error (cause, _) => .error cause
  | .ok run => .ok run.anonymous

variable {compiler : Compiler} {modules : List Module} {maxDepth depth : Nat} {one other : Run}

/-- What a call that follows a draft leaves without ids. -/
theorem stripped_leave {run : Run} {position : Position} {node : Node} {entry : Entry}
    (found : compiler.catalog.find? node.process.text = some entry)
    {draft : Arguments → String → Except CompileError Draft}
    (follows : entry.emitter.Follows draft) {arguments : Arguments}
    (given : arguments = ⟨node.process, valuesAt run.calls position node.arguments⟩) :
    stripped (compiler.carryOut depth run (.leave position node)) =
      match draft arguments (run.context.stepId node.process.text) with
      | .error cause => .error cause
      | .ok made =>
        if made.datasets = [] then .error (.failed node.process.text .nothingProduced none)
        else .ok (run.calls.map Call.anonymous ++
            [⟨position, arguments, ⟨made.datasets, made.commands.map Command.anonymous⟩⟩],
          made.note run.context.locations) := by
  subst given
  have done := follows ⟨node.process, valuesAt run.calls position node.arguments⟩ run.context
  rw [carryOut, found]
  dsimp only at done ⊢
  cases drafted : draft ⟨node.process, valuesAt run.calls position node.arguments⟩
      (run.context.stepId node.process.text) with
  | error cause =>
    rw [drafted] at done
    obtain ⟨after, called, -⟩ := done
    rw [called]
    rfl
  | ok made =>
    rw [drafted] at done
    rw [done]
    obtain ⟨lead, location, datasets, commands⟩ := made
    cases datasets with
    | nil => rfl
    | cons dataset rest =>
      simp [stripped, Run.anonymous, Draft.product, Draft.after, Call.anonymous,
        Product.anonymous, number_anonymous]

/-- One event does the same to two runs that differ only in ids. -/
theorem carryOut_anonymous (same : one.anonymous = other.anonymous) {event : Event}
    (supplied : ∀ position node, event = .leave position node →
      Supplied modules one.calls position node) :
    stripped (carryOut ⟨Catalog.importing modules, maxDepth⟩ depth one event) =
      stripped (carryOut ⟨Catalog.importing modules, maxDepth⟩ depth other event) := by
  obtain ⟨sameCalls, sameLocations⟩ := Prod.mk.inj same
  cases event with
  | enter position node =>
    rw [carryOut, carryOut]
    split
    · rfl
    · cases (Catalog.importing modules).find? node.process.text with
      | none => rfl
      | some entry => exact congrArg Except.ok same
  | leave position node =>
    cases found : (Catalog.importing modules).find? node.process.text with
    | none => simp only [carryOut, found, stripped]
    | some entry =>
      obtain ⟨draft, follows, steady⟩ := (supplied position node rfl).steady found
      have received : valuesAt one.calls position node.arguments =
          valuesAt other.calls position node.arguments :=
        valuesAt_anonymous sameCalls position node.arguments
      rw [stripped_leave found follows rfl, stripped_leave found follows
          (congrArg (Arguments.mk node.process) received),
        sameCalls, sameLocations, steady _ (other.context.stepId node.process.text)]

/-- Events do the same to two runs that differ only in ids. -/
theorem through_anonymous (same : one.anonymous = other.anonymous) {events : List Event}
    (supplied : ∀ before position node after middle,
      events = before ++ .leave position node :: after →
      through ⟨Catalog.importing modules, maxDepth⟩ depth before one = .ok middle →
      Supplied modules middle.calls position node) :
    stripped (through ⟨Catalog.importing modules, maxDepth⟩ depth events one) =
      stripped (through ⟨Catalog.importing modules, maxDepth⟩ depth events other) := by
  induction events generalizing one other with
  | nil => exact congrArg Except.ok same
  | cons event rest ih =>
    have here : stripped (carryOut ⟨Catalog.importing modules, maxDepth⟩ depth one event) =
        stripped (carryOut ⟨Catalog.importing modules, maxDepth⟩ depth other event) :=
      carryOut_anonymous same fun position node left =>
        supplied [] position node rest one (left ▸ rfl) rfl
    rw [through_cons, through_cons]
    cases ran : carryOut ⟨Catalog.importing modules, maxDepth⟩ depth one event with
    | error failure =>
      cases alsoRan : carryOut ⟨Catalog.importing modules, maxDepth⟩ depth other event with
      | error otherFailure => rwa [ran, alsoRan] at here
      | ok otherNext =>
        rw [ran, alsoRan] at here
        cases here
    | ok next =>
      cases alsoRan : carryOut ⟨Catalog.importing modules, maxDepth⟩ depth other event with
      | error otherFailure =>
        rw [ran, alsoRan] at here
        cases here
      | ok otherNext =>
        rw [ran, alsoRan] at here
        refine ih (Except.ok.inj here) fun before position node after middle split early => ?_
        exact supplied (event :: before) position node after middle (split ▸ rfl)
          (through_cons_ok.mpr ⟨next, ran, early⟩)

/-- What compiling gives without ids, when a run ends so. -/
def planOf : Except CompileError (List Call × List String) → Except CompileError Plan
  | .error cause => .error cause
  | .ok (calls, locations) =>
    match Context.location ⟨locations, .sequential 1⟩ with
    | .error cause => .error cause
    | .ok location => .ok ⟨location, datasetsAt calls [], commandsOf calls⟩

theorem compile_anonymous {graph : Node} (ordered : graph.Ordered) (ids : IdSource) :
    (compiler.compile ids graph).map Plan.anonymous =
      planOf (stripped (compiler.run 1 graph (.new ids))) := by
  rw [compile, node_eq_outcome ordered]
  cases compiler.run 1 graph (.new ids) with
  | error failure => rfl
  | ok final =>
    have located : Context.location ⟨final.context.locations, .sequential 1⟩ =
        final.context.location := rfl
    simp only [outcome, stripped, Run.anonymous, planOf, located]
    cases final.context.location with
    | error cause => rfl
    | ok location =>
      rw [datasetsAt_anonymous, ← commandsOf_anonymous]
      rfl

/-- Compiling a graph with two sources of step ids gives the same error, or plans that differ only
in the ids of their commands. The modules that declare outputs have to receive data wherever the
first compilation calls them. -/
theorem compile_ids_irrelevant (modules : List Module) (maxDepth : Nat) {graph : Node}
    (built : graph.Built) (first second : IdSource)
    (supplied : ∀ before position node after middle,
      graph.events [] = before ++ .leave position node :: after →
      through ⟨Catalog.importing modules, maxDepth⟩ 1 before ⟨[], .new first⟩ = .ok middle →
      Supplied modules middle.calls position node) :
    (compile ⟨Catalog.importing modules, maxDepth⟩ first graph).map Plan.anonymous =
      (compile ⟨Catalog.importing modules, maxDepth⟩ second graph).map Plan.anonymous := by
  have same : Run.anonymous ⟨[], .new first⟩ = Run.anonymous ⟨[], .new second⟩ := rfl
  rw [compile_anonymous built.ordered, compile_anonymous built.ordered, run, run,
    through_anonymous same supplied]

/-- Every call of a run made data. -/
theorem through_productive {events : List Event} {context : Context} {final : Run}
    (done : compiler.through depth events ⟨[], context⟩ = .ok final) :
    ∀ call ∈ final.calls, call.product.datasets ≠ [] := by
  have none : ∀ call ∈ (⟨[], context⟩ : Run).calls, call.product.datasets ≠ [] :=
    fun call member => nomatch member
  refine through_keeps (P := fun run => ∀ call ∈ run.calls, call.product.datasets ≠ []) ?_ none done
  intro position node run next earlier left call member
  obtain ⟨entry, product, after, -, -, nonempty, rfl⟩ := carryOut_leave.mp left
  rcases List.mem_append.mp member with early | new
  · exact earlier call early
  · rw [List.mem_singleton.mp new]
    exact nonempty

end Compiler

theorem datasetsAt_ne_nil {calls : List Call} {position : Position}
    (made : ∀ call ∈ calls, call.product.datasets ≠ [])
    (there : position ∈ calls.map (·.position)) : datasetsAt calls position ≠ [] := by
  rw [datasetsAt]
  split
  · rename_i call found
    exact made call (List.mem_of_find?_eq_some found)
  · rename_i missing
    obtain ⟨call, member, here⟩ := List.mem_map.mp there
    exact absurd here (by simpa using List.find?_eq_none.mp missing call member)

/-- Before a node is left, the nodes nested in it are left. -/
theorem Node.left_before {graph node child : Node} (ordered : graph.Ordered) {position : Position}
    (found : graph.at? position = some node) {before after : List Event}
    (split : graph.events [] = before ++ .leave position node :: after)
    {entry : String × Argument} (member : entry ∈ node.arguments) {place : Nat}
    (placed : entry.2.nested[place]? = some child) :
    position ++ [(entry.1, place)] ∈ leftPositions before := by
  obtain ⟨early, late, whole⟩ := events_split found []
  obtain ⟨process, given⟩ := node
  have nested : position ++ [(entry.1, place)] ∈
      leftPositions (argumentsEvents position given) := by
    have below : child.Ordered :=
      (ordered.at found).child member (List.mem_of_getElem? placed)
    refine mem_leftPositions.mpr ⟨child, mem_argumentsEvents.mpr ⟨entry, member, place, child,
      placed, (leave_mem_events below).mpr ⟨[], by simp, rfl⟩⟩⟩
  -- The position is left once, so what comes before it is the same in both splits.
  have nodup := leftPositions_nodup ordered []
  have one : leftPositions (graph.events []) =
      leftPositions before ++ position :: leftPositions after := by
    rw [split, leftPositions_append]
    rfl
  have other : leftPositions (graph.events []) =
      (leftPositions early ++ leftPositions (argumentsEvents position given)) ++
        position :: leftPositions late := by
    rw [whole, leftPositions_append, leftPositions_append, List.nil_append, leftPositions_mk]
    simp only [List.append_assoc, List.singleton_append]
  rw [one] at nodup other
  obtain ⟨onlyHere, -⟩ := List.nodup_cons.mp (List.nodup_middle.mp nodup)
  rw [List.mem_append, not_or] at onlyHere
  obtain ⟨same, -⟩ := (List.append_cons_inj_of_notMem onlyHere.1 onlyHere.2).mp other
  rw [same]
  exact List.mem_append_right _ nested

/-- A module with outputs receives data wherever a run calls it, if a node stands in one of its
arguments wherever the graph runs it. -/
theorem Compiler.supplied_of_nested {modules : List Module} {compiler : Compiler} {depth : Nat}
    {graph : Node} (ordered : graph.Ordered)
    (fed : ∀ position node, graph.at? position = some node → node.Declares modules →
      ∃ entry ∈ node.arguments, entry.2.nested ≠ [])
    {context : Context} {before after : List Event} {position : Position} {node : Node}
    {middle : Run} (split : graph.events [] = before ++ .leave position node :: after)
    (ran : compiler.through depth before ⟨[], context⟩ = .ok middle) :
    Supplied modules middle.calls position node := by
  intro declares
  have found : graph.at? position = some node := by
    have left : .leave position node ∈ graph.events [] := by simp [split]
    obtain ⟨rest, rfl, found⟩ := (Node.leave_mem_events ordered).mp left
    exact found
  obtain ⟨entry, member, nested⟩ := fed position node found declares
  obtain ⟨child, rest, listed⟩ := List.exists_cons_of_ne_nil nested
  have placed : entry.2.nested[0]? = some child := by rw [listed]; rfl
  have left := Node.left_before ordered found split member placed
  obtain ⟨calls, grown, positions⟩ := through_calls ran
  have made : datasetsAt middle.calls (position ++ [(entry.1, 0)]) ≠ [] := by
    refine datasetsAt_ne_nil (through_productive ran) ?_
    rw [grown, List.nil_append, positions]
    exact left
  obtain ⟨dataset, inside⟩ := List.exists_mem_of_ne_nil _ made
  refine List.ne_nil_of_mem (a := dataset) ?_
  rw [received_valuesAt]
  have first : 0 < entry.2.nested.length := List.length_pos_of_ne_nil nested
  exact List.mem_flatMap.mpr ⟨entry, member, List.mem_flatMap.mpr
    ⟨0, List.mem_range.mpr first, inside⟩⟩

namespace Compiler

theorem declares_neighbors {node : Node} (declares : node.Declares [neighbors]) :
    node.process.text = neighbors.process.text := by
  obtain ⟨entry, found, listed, -⟩ := declares
  have only : entry = ⟨neighbors.described, neighbors.run.emit⟩ := List.mem_singleton.mp listed
  rw [← Catalog.id_of_find? found, only]
  rfl

theorem at?_storedData {reference : String} {position : Position} {node : Node}
    (found : (storedData reference).at? position = some node) : node = storedData reference := by
  have given : (storedData reference).arguments =
      [("data_id", .literal (.string reference))] := rfl
  cases position with
  | nil =>
    cases found
    rfl
  | cons step rest =>
    obtain ⟨name, place⟩ := step
    obtain ⟨argument, child, named, placed, -⟩ := Node.at?_cons.mp found
    have listed := Keyed.mem_of_find? named
    rw [given] at listed
    cases List.mem_singleton.mp listed
    cases placed

theorem neighborhood_fed (reference : String) (size : Int) (position : Position) (node : Node)
    (found : (neighborhood reference size).at? position = some node)
    (declares : node.Declares [neighbors]) : ∃ entry ∈ node.arguments, entry.2.nested ≠ [] := by
  have given : (neighborhood reference size).arguments =
      [("input", .node (storedData reference)), ("size", .literal (.int size))] := rfl
  -- Of the two nodes, only the root runs the module.
  have root : node = neighborhood reference size := by
    cases position with
    | nil =>
      cases found
      rfl
    | cons step rest =>
      obtain ⟨name, place⟩ := step
      obtain ⟨argument, child, named, placed, below⟩ := Node.at?_cons.mp found
      have listed := Keyed.mem_of_find? named
      rw [given] at listed
      rcases List.mem_cons.mp listed with input | size
      · cases input
        cases List.mem_singleton.mp (List.mem_of_getElem? placed)
        have apart : (ProcessId.sanitize Process.GetData.name).text ≠ neighbors.process.text := by
          decide +kernel
        rw [at?_storedData below] at declares
        exact absurd (declares_neighbors declares) apart
      · cases List.mem_singleton.mp size
        cases placed
  rw [root, given]
  exact ⟨_, List.mem_cons_self, by simp [Argument.nested]⟩

theorem neighborhood_ids :
    (neighborhood "nc.PERMANENT.raster.elevation" 3).Built ∧
    (compile ⟨Catalog.importing [neighbors], 64⟩ (.sequential 1)
        (neighborhood "nc.PERMANENT.raster.elevation" 3)).map Plan.location = .ok "nc" ∧
    (compile ⟨Catalog.importing [neighbors], 64⟩ (.sequential 1)
        (neighborhood "nc.PERMANENT.raster.elevation" 3)).map Plan.anonymous =
      (compile ⟨Catalog.importing [neighbors], 64⟩ (.random (fun n => ⟨BitVec.ofNat 128 n⟩) 0)
        (neighborhood "nc.PERMANENT.raster.elevation" 3)).map Plan.anonymous := by
  have built := neighborhood_built "nc.PERMANENT.raster.elevation" 3
  refine ⟨built, by decide +kernel, ?_⟩
  refine compile_ids_irrelevant [neighbors] 64 built _ _ ?_
  intro before position node after middle split ran
  exact supplied_of_nested built.ordered (neighborhood_fed _ _) split ran

end Compiler

end GeoChain
