import GeoChain.Proofs.Compile.Naming

/-!
# Lines of processes

A line of processes leads from a `get_data` to a node, each node reading the one before it. Leaving
aside those that pass datasets through, its processes with their keys are its stages. The output of
a line is named after its stages, one behind the other, and its name gives them all away: what the
loaded dataset is called does not matter.
-/

namespace GeoChain

namespace Stage

/-- The name at the end of a line of stages that starts with a dataset. -/
def chain (source : String) (stages : List Stage) : String :=
  stages.foldl (fun dataset stage => stage.dataset [dataset]) source

theorem chain_append (source : String) (stages : List Stage) (last : Stage) :
    chain source (stages ++ [last]) = last.dataset [chain source stages] := by
  rw [chain, List.foldl_append]
  rfl

theorem marked_chain (source : String) (stages : List Stage) :
    Dataset.marked (chain source stages) = Dataset.marked source ++ stages.flatMap piece := by
  induction stages using List.reverseRecOn with
  | nil => simp [chain]
  | append_singleton stages last ih =>
    rw [chain_append, marked_dataset, List.flatMap_singleton, ih, List.flatMap_append,
      List.flatMap_singleton, List.append_assoc]

/-- The name at the end of a line of stages gives the stages. -/
theorem chain_unique {source : String} {stages others : List Stage}
    (valid : ∀ stage ∈ stages, stage.Valid) (alsoValid : ∀ stage ∈ others, stage.Valid)
    (same : chain source stages = chain source others) : stages = others := by
  have marked := congrArg Dataset.marked same
  rw [marked_chain, marked_chain] at marked
  refine pieces_of_eq piece_ne_nil ?_ (List.append_cancel_left marked)
  exact fun one member other among => (valid one member).apart (alsoValid other among)

end Stage

namespace Node

/-- The nodes in the arguments of a node. -/
def inner (node : Node) : List Node := node.arguments.flatMap (·.2.nested)

/-- A line of single-input processes on top of a node, and its stages. -/
inductive Line (load : Node) : List Stage → Node → Prop where
  | load : Line load [] load
  | passes {stages : List Stage} {below node : Node} (line : Line load stages below)
      (only : node.inner = [below]) (passing : node.process.text ∈ Process.passing) :
      Line load stages node
  | makes {stages : List Stage} {below node : Node} (line : Line load stages below)
      (only : node.inner = [below]) (single : node.process.text ∈ Process.single) :
      Line load (stages ++ [node.stage]) node

/-- If only one node stands in the arguments, what it made is all that is received. -/
theorem received_of_only {given : List (String × Argument)} {below : Node}
    (only : given.flatMap (·.2.nested) = [below]) : ∃ entry ∈ given, entry.2.nested = [below] ∧
      ∀ calls position, ModuleRun.received (valuesAt calls position given) =
        datasetsAt calls (position ++ [(entry.1, 0)]) := by
  induction given with
  | nil => simp at only
  | cons first rest ih =>
    simp only [received_valuesAt, List.flatMap_cons] at only ih ⊢
    rcases List.append_eq_singleton_iff.mp only with ⟨empty, later⟩ | ⟨here, empty⟩
    · obtain ⟨entry, member, single, received⟩ := ih later
      refine ⟨entry, List.mem_cons_of_mem _ member, single, fun calls position => ?_⟩
      simp [empty, received]
    · refine ⟨first, List.mem_cons_self, here, fun calls position => ?_⟩
      have none : ∀ entry ∈ rest, entry.2.nested = [] := List.flatMap_eq_nil_iff.mp empty
      have nothing : (rest.flatMap fun entry => (List.range entry.2.nested.length).flatMap
          fun place => datasetsAt calls (position ++ [(entry.1, place)])) = [] := by
        refine List.flatMap_eq_nil_iff.mpr fun entry member => ?_
        rw [none entry member]
        rfl
      simp [here, nothing]

/-- A node that has only one node in its arguments receives what that node made. -/
theorem only_at {graph node below : Node} (ordered : graph.Ordered) {position : Position}
    (found : graph.at? position = some node) (only : node.inner = [below]) :
    ∃ under, graph.at? under = some below ∧ ∀ calls,
      ModuleRun.received (argumentsAt calls position node).values = datasetsAt calls under := by
  obtain ⟨entry, member, single, received⟩ := received_of_only only
  have named := Keyed.find?_of_mem (ordered.at found).increasing member
  refine ⟨position ++ [(entry.1, 0)], ?_, fun calls => received calls position⟩
  refine (at?_append found).mpr (at?_cons.mpr ⟨entry.2, below, named, ?_, rfl⟩)
  rw [single]
  rfl

end Node

namespace Compiler

variable {maxDepth depth : Nat} {graph : Node} {context : Context} {final : Run}

/-- A `get_data` makes the dataset that it refers to. -/
theorem load_at (ordered : graph.Ordered)
    (done : Compiler.run ⟨Catalog.builtin, maxDepth⟩ depth graph context = .ok final)
    {position : Position} {node : Node} (found : graph.at? position = some node)
    (loader : node.process.text = Process.GetData.name) :
    ∃ source, node.loads? = some source ∧ datasetsAt final.calls position = [source] := by
  obtain ⟨text, reference, held, read, datasets⟩ :=
    (makes_at ordered done found).1.of_loader loader
  exact ⟨reference.dataset, Node.loads?_of_read loader (get?_valuesAt.mp held) read, datasets⟩

/-- A process that passes datasets through passes on the only one that it receives. -/
theorem passing_at (ordered : graph.Ordered)
    (done : Compiler.run ⟨Catalog.builtin, maxDepth⟩ depth graph context = .ok final)
    {position : Position} {node : Node} (found : graph.at? position = some node)
    (passing : node.process.text ∈ Process.passing) {dataset : String}
    (received : ModuleRun.received (argumentsAt final.calls position node).values = [dataset]) :
    datasetsAt final.calls position = [dataset] := by
  obtain ⟨makes, nonempty⟩ := makes_at ordered done found
  obtain ⟨name, held⟩ := Arguments.primaryData_ok (makes.of_passing passing)
  have inside := (Arguments.received_infix held).sublist
  rw [received] at inside
  exact (List.sublist_singleton.mp inside).resolve_left nonempty

/-- A process that makes a dataset from one other makes it from the only one that it receives. -/
theorem single_at (ordered : graph.Ordered)
    (done : Compiler.run ⟨Catalog.builtin, maxDepth⟩ depth graph context = .ok final)
    {position : Position} {node : Node} (found : graph.at? position = some node)
    (single : node.process.text ∈ Process.single) {dataset : String}
    (received : ModuleRun.received (argumentsAt final.calls position node).values = [dataset]) :
    node.stage.Valid ∧ datasetsAt final.calls position = [node.stage.dataset [dataset]] := by
  have others : ∀ process ∈ Process.single, process ≠ Process.Ndvi.name := by decide
  have notIndex : node.stage.process ≠ Process.Ndvi.name := others _ single
  obtain ⟨valid, count, datasets, among⟩ :=
    (makes_at ordered done found).1.of_maker (List.mem_cons_of_mem _ single)
  rw [stage_argumentsAt] at valid count datasets
  rw [Stage.arity, if_neg notIndex] at count
  obtain ⟨input, inputs⟩ := List.length_eq_one_iff.mp count
  rw [inputs] at among datasets
  have same := among input List.mem_cons_self
  rw [received, List.mem_singleton] at same
  exact ⟨valid, same ▸ datasets⟩

/-- The end of a line of processes makes what its stages make. -/
theorem line_at (ordered : graph.Ordered)
    (done : Compiler.run ⟨Catalog.builtin, maxDepth⟩ depth graph context = .ok final)
    {load : Node} (loader : load.process.text = Process.GetData.name) {stages : List Stage}
    {node : Node} (line : load.Line stages node) {position : Position}
    (found : graph.at? position = some node) :
    ∃ source, load.loads? = some source ∧ (∀ stage ∈ stages, stage.Valid) ∧
      datasetsAt final.calls position = [Stage.chain source stages] := by
  induction line generalizing position with
  | load =>
    obtain ⟨source, loads, datasets⟩ := load_at ordered done found loader
    exact ⟨source, loads, by simp, datasets⟩
  | passes line only passing ih =>
    obtain ⟨under, reached, received⟩ := Node.only_at ordered found only
    obtain ⟨source, loads, valid, datasets⟩ := ih reached
    exact ⟨source, loads, valid,
      passing_at ordered done found passing ((received _).trans datasets)⟩
  | makes line only single ih =>
    obtain ⟨under, reached, received⟩ := Node.only_at ordered found only
    obtain ⟨source, loads, valid, datasets⟩ := ih reached
    obtain ⟨last, made⟩ := single_at ordered done found single ((received _).trans datasets)
    refine ⟨source, loads, ?_, by rw [made, Stage.chain_append]⟩
    intro stage member
    rcases List.mem_append.mp member with early | late
    · exact valid stage early
    · exact List.mem_singleton.mp late ▸ last

/-- Two lines of processes on top of one `get_data` have the same outputs exactly if they have the
same stages: the same processes with the same keys, in the same order, leaving aside those that pass
datasets through. -/
theorem compile_line {load : Node} (loader : load.process.text = Process.GetData.name)
    {stages others : List Stage} {one other : Node} (line : load.Line stages one)
    (alsoLine : load.Line others other) (built : one.Built) (alsoBuilt : other.Built)
    {maxDepth alsoDepth : Nat} {ids alsoIds : IdSource} {plan second : Plan}
    (compiled : compile ⟨Catalog.builtin, maxDepth⟩ ids one = .ok plan)
    (alsoCompiled : compile ⟨Catalog.builtin, alsoDepth⟩ alsoIds other = .ok second) :
    plan.outputs = second.outputs ↔ stages = others := by
  obtain ⟨run, done, -, outputs, -⟩ := (compile_ok built.ordered).mp compiled
  obtain ⟨alsoRun, alsoDone, -, alsoOutputs, -⟩ := (compile_ok alsoBuilt.ordered).mp alsoCompiled
  obtain ⟨source, loads, valid, datasets⟩ := line_at built.ordered done loader line (Node.at?_nil _)
  obtain ⟨other, alsoLoads, alsoValid, alsoDatasets⟩ :=
    line_at alsoBuilt.ordered alsoDone loader alsoLine (Node.at?_nil _)
  obtain rfl : source = other := Option.some.inj (loads.symm.trans alsoLoads)
  rw [outputs, datasets, alsoOutputs, alsoDatasets, List.singleton_inj]
  constructor
  · exact Stage.chain_unique valid alsoValid
  · intro same
    rw [same]

/-- A series in a range of time. -/
def seriesRange (start stop : String) : Node :=
  (Node.new (.sanitize Process.FilterDaterange.name)).withArgument "imagery" (.node seriesLoad)
    |>.withArgument "from" (.literal (.string start))
    |>.withArgument "to" (.literal (.string stop))

def seriesExport : Node :=
  (Node.new (.sanitize Process.RasterExporter.name)).withArgument "data"
    (.nodes [seriesRange " 2001-01-01" "2005-01-01 "])

theorem seriesRange_built (start stop : String) : (seriesRange start stop).Built :=
  .withLiteral (.withLiteral (.withNode (.new _) _ seriesLoad_built) _ _) _ _

theorem seriesExport_built : seriesExport.Built :=
  .withNodes (.new _) _ _ (by simpa using seriesRange_built _ _)

theorem seriesExport_line : ∃ stage plan second, stage.key = some "2c862542" ∧
    seriesLoad.Line [stage] (seriesRange "2001-01-01" "2005-01-01") ∧
    seriesLoad.Line [stage] seriesExport ∧
    compile ⟨Catalog.builtin, 64⟩ (.sequential 1) (seriesRange "2001-01-01" "2005-01-01") =
      .ok plan ∧
    compile ⟨Catalog.builtin, 64⟩ (.sequential 1) seriesExport = .ok second ∧
    plan.outputs = ["lsat5_landsat_2c862542_filter_daterange"] ∧
    plan.outputs = second.outputs := by
  have compiled : (compile ⟨Catalog.builtin, 64⟩ (.sequential 1)
      (seriesRange "2001-01-01" "2005-01-01")).map Plan.outputs =
        .ok ["lsat5_landsat_2c862542_filter_daterange"] := by decide +kernel
  have exported : (compile ⟨Catalog.builtin, 64⟩ (.sequential 1) seriesExport).map Plan.location =
      .ok "nc_spm" := by decide +kernel
  obtain ⟨plan, compiles, outputs⟩ := Outcome.map_eq_ok.mp compiled
  obtain ⟨second, alsoCompiles, -⟩ := Outcome.map_eq_ok.mp exported
  have same : (seriesRange " 2001-01-01" "2005-01-01 ").stage =
      (seriesRange "2001-01-01" "2005-01-01").stage := by decide +kernel
  have line : seriesLoad.Line [(seriesRange "2001-01-01" "2005-01-01").stage]
      (seriesRange "2001-01-01" "2005-01-01") :=
    .makes .load (by decide +kernel) (by decide +kernel)
  have padded : seriesLoad.Line [(seriesRange " 2001-01-01" "2005-01-01 ").stage]
      (seriesRange " 2001-01-01" "2005-01-01 ") :=
    .makes .load (by decide +kernel) (by decide +kernel)
  have alsoLine : seriesLoad.Line [(seriesRange "2001-01-01" "2005-01-01").stage] seriesExport :=
    same ▸ .passes padded (by decide +kernel) (by decide +kernel)
  have loader : seriesLoad.process.text = Process.GetData.name := by decide +kernel
  exact ⟨_, plan, second, by decide +kernel, line, alsoLine, compiles, alsoCompiles, outputs,
    (compile_line loader line alsoLine (seriesRange_built _ _) seriesExport_built compiles
      alsoCompiles).mpr rfl⟩

end Compiler

end GeoChain
