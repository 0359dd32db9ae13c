import GeoChain.Proofs.Compile.Numbering
import GeoChain.Proofs.Compile.Stretch
import GeoChain.Proofs.Process.Stage

/-!
# One name for one computation

Every dataset of a graph of built-in processes is loaded or is named after the process that makes
it, the datasets that the process reads, and the key of its literals. If no text ends in two of the
pieces that such names are glued from, a name gives all of that away, so no two computations share
one. Mapsets with underscores can break this: the underscore that separates a layer from its mapset
is then one of several.
-/

namespace GeoChain

namespace Node

/-- The text that an argument is given as, if it is a text. -/
def text? (node : Node) (name : String) : Option String :=
  match node.argument? name with
  | some (.literal (.string text)) => some text
  | _ => none

theorem text?_eq_some {node : Node} {name text : String} :
    node.text? name = some text ↔ node.argument? name = some (.literal (.string text)) := by
  rw [text?]
  split
  · rename_i held
    simp [held]
  · rename_i notText
    simp only [reduceCtorEq, false_iff]
    exact notText text

/-- The stage that a node stands for. -/
def stage (node : Node) : Stage := .of node.process.text node.text?

/-- The dataset that a `get_data` refers to. -/
def loads? (node : Node) : Option String :=
  if node.process.text = Process.GetData.name then
    (node.text? "data_id").bind fun text => (Reference.read text).toOption.map Reference.dataset
  else none

theorem loads?_of_read {node : Node} {text : String} {reference : Reference}
    (loader : node.process.text = Process.GetData.name)
    (held : node.argument? "data_id" = some (.literal (.string text)))
    (read : Reference.read text = .ok reference) : node.loads? = some reference.dataset := by
  rw [loads?, if_pos loader, text?_eq_some.mpr held, Option.bind_some, read]
  rfl

end Node

def Event.loads? : Event → Option String
  | enter _ _ => none
  | leave _ node => node.loads?

namespace Node

/-- The datasets that a graph loads. -/
def loaded (graph : Node) : List String := (graph.events []).filterMap Event.loads?

/-- What the names in a graph are glued from: the datasets that it loads, and processes. -/
def pieces (graph : Node) : List String := graph.loaded ++ Process.makers

/-- Names can be taken apart: no text ends in two of the pieces that they are glued from. -/
def Separable (graph : Node) : Prop :=
  ∀ one ∈ graph.pieces, ∀ other ∈ graph.pieces, Apart Dataset.marked one other

instance (graph : Node) : Decidable graph.Separable :=
  inferInstanceAs (Decidable (∀ one ∈ graph.pieces, ∀ other ∈ graph.pieces, _))

variable {graph : Node}

theorem mem_loaded (ordered : graph.Ordered) {position : Position} {node : Node}
    (found : graph.at? position = some node) {dataset : String}
    (loads : node.loads? = some dataset) : dataset ∈ graph.loaded :=
  List.mem_filterMap.mpr
    ⟨.leave position node, (leave_mem_events ordered).mpr ⟨position, rfl, found⟩, loads⟩

theorem at_mem_of_loaded {dataset : String} (member : dataset ∈ graph.loaded) :
    '@' ∈ dataset.toList := by
  obtain ⟨event, -, loads⟩ := List.mem_filterMap.mp member
  cases event with
  | enter => cases loads
  | leave position node =>
    rw [Event.loads?, loads?] at loads
    split at loads
    · obtain ⟨text, -, read⟩ := Option.bind_eq_some_iff.mp loads
      obtain ⟨reference, -, rfl⟩ := Option.map_eq_some_iff.mp read
      simp [Reference.dataset]
    · cases loads

theorem at_not_mem_makers : ∀ process ∈ Process.makers, '@' ∉ process.toList := by
  decide

/-- The datasets of a graph: loaded, or made in stages from what is loaded. -/
inductive Named (graph : Node) : String → Prop where
  | loaded {dataset : String} (member : dataset ∈ graph.loaded) : Named graph dataset
  | made {stage : Stage} {inputs : List String} (valid : stage.Valid)
      (count : inputs.length = stage.arity) (named : ∀ dataset ∈ inputs, Named graph dataset) :
      Named graph (stage.dataset inputs)

/-- No process that makes datasets stands at the end of a loaded dataset, or the other way round. -/
theorem Separable.loaded_not_made (separable : graph.Separable) {dataset : String}
    (member : dataset ∈ graph.loaded) {stage : Stage} (valid : stage.Valid) {inputs : List String}
    {text : List Char} (ends : Dataset.marked dataset <:+ text)
    (alsoEnds : Dataset.marked (stage.dataset inputs) <:+ text) : False := by
  rw [Stage.marked_dataset, Stage.piece, ← List.append_assoc] at alsoEnds
  have same : dataset = stage.process :=
    separable _ (List.mem_append_left _ member) _ (List.mem_append_right _ valid.maker) text ends
      ((List.suffix_append _ _).trans alsoEnds)
  exact at_not_mem_makers _ valid.maker (same ▸ at_mem_of_loaded member)

/-- If names can be taken apart, no text ends in the names of two datasets. -/
theorem Named.apart (separable : graph.Separable) {one other : String} (named : graph.Named one)
    (alsoNamed : graph.Named other) : Apart Dataset.marked one other := by
  -- The induction is on how the first name was made; the inputs of the second one are arbitrary.
  induction named generalizing other with
  | loaded member =>
    cases alsoNamed with
    | loaded among =>
      exact separable _ (List.mem_append_left _ member) _ (List.mem_append_left _ among)
    | made valid count inner =>
      intro text ends alsoEnds
      exact (separable.loaded_not_made member valid ends alsoEnds).elim
  | made valid count inner ih =>
    intro text ends alsoEnds
    cases alsoNamed with
    | loaded member => exact (separable.loaded_not_made member valid alsoEnds ends).elim
    | made alsoValid alsoCount alsoInner =>
      have apart := fun one member other among => ih one member (alsoInner other among)
      obtain ⟨rfl, rfl⟩ :=
        Stage.dataset_unique valid count alsoValid alsoCount apart ends alsoEnds
      rfl

end Node

theorem text?_argumentsAt (calls : List Call) (position : Position) (node : Node) :
    (argumentsAt calls position node).text? = node.text? := by
  funext name
  ext text
  rw [Arguments.text?_eq_some, Node.text?_eq_some, argumentsAt, get?_valuesAt, Node.argument?]

theorem stage_argumentsAt (calls : List Call) (position : Position) (node : Node) :
    (argumentsAt calls position node).stage = node.stage := by
  rw [Arguments.stage, text?_argumentsAt, Node.stage]
  rfl

namespace Reference

/-- The last underscore of the glued name stands before the mapset. -/
structure Clear (reference : Reference) : Prop where
  layer : '@' ∉ reference.layer.toList
  mapset : '@' ∉ reference.mapset.toList
  unbroken : '_' ∉ reference.mapset.toList

theorem Clear.plain {reference : Reference} (clear : reference.Clear) :
    Dataset.plain reference.dataset =
      reference.layer.toList ++ '_' :: reference.mapset.toList := by
  rw [dataset, Dataset.plain_append, Dataset.plain_append, List.append_assoc,
    Dataset.plain_eq_toList clear.layer, Dataset.plain_eq_toList clear.mapset]
  rfl

theorem Clear.dataset_unique {one other : Reference} (clear : one.Clear) (alsoClear : other.Clear)
    (same : Dataset.plain one.dataset = Dataset.plain other.dataset) :
    one.dataset = other.dataset := by
  rw [clear.plain, alsoClear.plain] at same
  have mapset := IdSource.afterUnderscore_unique clear.unbroken alsoClear.unbroken same
  rw [mapset] at same
  have layer := List.append_cancel_right same
  rw [dataset, dataset, String.toList_inj.mp mapset, String.toList_inj.mp layer]

/-- What stages make from two such references has one name only if both are the same. -/
theorem Clear.stage_unique {one other : Reference} (clear : one.Clear) (alsoClear : other.Clear)
    {stage second : Stage} (valid : stage.Valid) (alsoValid : second.Valid)
    (same : stage.dataset [one.dataset] = second.dataset [other.dataset]) :
    one.dataset = other.dataset ∧ stage = second := by
  obtain ⟨stages, glued⟩ := Stage.dataset_glued valid alsoValid same
  simp only [List.flatMap_singleton, Dataset.marked, List.cons.injEq, true_and] at glued
  exact ⟨clear.dataset_unique alsoClear glued, stages⟩

end Reference

namespace Compiler

variable {maxDepth depth : Nat} {graph : Node} {context : Context} {final : Run}

/-- Every node of a run with the built-in processes makes what its process makes. -/
theorem makes_at (ordered : graph.Ordered)
    (done : Compiler.run ⟨Catalog.builtin, maxDepth⟩ depth graph context = .ok final)
    {position : Position} {node : Node} (found : graph.at? position = some node) :
    Process.Makes (argumentsAt final.calls position node) (datasetsAt final.calls position) ∧
      datasetsAt final.calls position ≠ [] := by
  obtain ⟨before, call, later, events, early, late, entry, -, -, arguments, -, resolved, called,
    datasets, nonempty⟩ := call_executed ordered done found
  rw [datasets]
  rw [arguments] at called
  exact ⟨Catalog.builtin_makes _ resolved called, nonempty⟩

theorem named_at (ordered : graph.Ordered)
    (done : Compiler.run ⟨Catalog.builtin, maxDepth⟩ depth graph context = .ok final)
    {position : Position} {node : Node} (found : graph.at? position = some node) :
    ∀ dataset ∈ datasetsAt final.calls position, graph.Named dataset := by
  refine datasetsAt_induction ordered done ?_ found
  intro position node entry early late product found resolved called received
  have makes := Catalog.builtin_makes (argumentsAt final.calls position node) resolved called
  generalize product.datasets = datasets at makes
  cases makes with
  | loads loader held read =>
    have loads := Node.loads?_of_read loader (get?_valuesAt.mp held) read
    simpa using Node.Named.loaded (Node.mem_loaded ordered found loads)
  | passes passing main =>
    obtain ⟨name, held⟩ := Arguments.primaryData_ok main
    exact fun dataset member => received dataset (Arguments.received_of_get? held member)
  | makes valid count among =>
    simpa using Node.Named.made valid count fun dataset member =>
      received dataset (among dataset member)

/-- What a node that makes a dataset makes, and what it reads. -/
theorem maker_at (ordered : graph.Ordered)
    (done : Compiler.run ⟨Catalog.builtin, maxDepth⟩ depth graph context = .ok final)
    {position : Position} {node : Node} (found : graph.at? position = some node)
    (maker : node.process.text ∈ Process.makers) : node.stage.Valid ∧
      (argumentsAt final.calls position node).inputs.length = node.stage.arity ∧
      datasetsAt final.calls position =
        [node.stage.dataset (argumentsAt final.calls position node).inputs] ∧
      ∀ dataset ∈ (argumentsAt final.calls position node).inputs, graph.Named dataset := by
  obtain ⟨valid, count, datasets, received⟩ := (makes_at ordered done found).1.of_maker maker
  rw [stage_argumentsAt] at valid count datasets
  refine ⟨valid, count, datasets, fun dataset member => ?_⟩
  obtain ⟨-, -, child, -, below, reached, here⟩ :=
    nested_at_of_received ordered found (received dataset member)
  exact named_at ordered done reached dataset here

/-- A node that makes a dataset makes one, under the name of its stage and of what it reads. Two
such nodes make a dataset of one name only if they run one process, have the same key, and read
datasets whose names are glued to the same text; these are the same datasets if the names in the
graph can be taken apart. For two stored datasets it is enough that no layer and no mapset has an
`@` and no mapset has an underscore. -/
theorem compile_names (maxDepth : Nat) (ids : IdSource) {graph : Node} (built : graph.Built)
    {plan : Plan} (compiled : compile ⟨Catalog.builtin, maxDepth⟩ ids graph = .ok plan) :
    (∃ run, Compiler.run ⟨Catalog.builtin, maxDepth⟩ 1 graph (.new ids) = .ok run ∧
      plan.commands = commandsOf run.calls ∧
      (∀ position node, graph.at? position = some node → node.process.text ∈ Process.makers →
        datasetsAt run.calls position =
          [node.stage.dataset (argumentsAt run.calls position node).inputs]) ∧
      ∀ position node other second,
        graph.at? position = some node → node.process.text ∈ Process.makers →
        graph.at? other = some second → second.process.text ∈ Process.makers →
        datasetsAt run.calls position = datasetsAt run.calls other →
        node.process.text = second.process.text ∧ node.stage.key = second.stage.key ∧
          (argumentsAt run.calls position node).inputs.flatMap Dataset.marked =
            (argumentsAt run.calls other second).inputs.flatMap Dataset.marked ∧
          (graph.Separable → (argumentsAt run.calls position node).inputs =
            (argumentsAt run.calls other second).inputs)) ∧
    ∀ one other : Reference, one.Clear → other.Clear → ∀ stage second : Stage,
      stage.Valid → second.Valid →
      stage.dataset [one.dataset] = second.dataset [other.dataset] →
      one.dataset = other.dataset ∧ stage = second := by
  have ordered := built.ordered
  obtain ⟨final, done, -, -, commands⟩ := (compile_ok ordered).mp compiled
  refine ⟨⟨final, done, commands, ?_, ?_⟩, ?_⟩
  · intro position node found maker
    exact (maker_at ordered done found maker).2.2.1
  · intro position node other second found maker alsoFound alsoMaker same
    obtain ⟨valid, count, datasets, named⟩ := maker_at ordered done found maker
    obtain ⟨alsoValid, alsoCount, alsoDatasets, alsoNamed⟩ :=
      maker_at ordered done alsoFound alsoMaker
    rw [datasets, alsoDatasets] at same
    have name := List.singleton_inj.mp same
    obtain ⟨stages, glued⟩ := Stage.dataset_glued valid alsoValid name
    refine ⟨congrArg Stage.process stages, congrArg Stage.key stages, glued, fun separable => ?_⟩
    have apart := fun one member other among =>
      Node.Named.apart separable (named one member) (alsoNamed other among)
    exact (Stage.dataset_unique valid count alsoValid alsoCount apart List.suffix_rfl
      (name ▸ List.suffix_rfl)).2
  · intro one other clear alsoClear stage second valid alsoValid same
    exact clear.stage_unique alsoClear valid alsoValid same

end Compiler

def storedData (reference : String) : Node :=
  (Node.new (.sanitize Process.GetData.name)).withArgument "data_id" (.literal (.string reference))

/-- The export of what several nodes make. -/
def exported (nodes : List Node) : Node :=
  (Node.new (.sanitize Process.RasterExporter.name)).withArgument "imagery" (.nodes nodes)

def minimum (reference : String) : Node :=
  (Node.new (.sanitize Process.MinTime.name)).withArgument "imagery" (.node (storedData reference))

theorem storedData_built (reference : String) : (storedData reference).Built :=
  .withLiteral (.new _) _ _

theorem minimum_built (reference : String) : (minimum reference).Built :=
  .withNode (.new _) _ (storedData_built reference)

theorem minima_built (references : List String) : (exported (references.map minimum)).Built := by
  refine .withNodes (.new _) _ _ fun child member => ?_
  obtain ⟨reference, -, rfl⟩ := List.mem_map.mp member
  exact minimum_built reference

def twoMapsets : Node := exported
  (["ECAD.PERMANENT.strds.temperature", "ECAD.user1.strds.temperature"].map minimum)

/-- One text, cut into a layer and a mapset at two of its underscores. -/
def twoCuts : Node := exported (["nc.c.strds.a_b", "nc.b_c.strds.a"].map minimum)

namespace Compiler

theorem twoMapsets_named : twoMapsets.Built ∧ twoMapsets.Separable ∧ ∃ plan,
    compile ⟨Catalog.builtin, 64⟩ (.sequential 1) twoMapsets = .ok plan ∧
    plan.outputs = ["temperature_PERMANENT_min_time", "temperature_user1_min_time"] ∧
    ∃ run, Compiler.run ⟨Catalog.builtin, 64⟩ 1 twoMapsets (.new (.sequential 1)) = .ok run ∧
      ∀ position node other second,
        twoMapsets.at? position = some node → node.process.text ∈ Process.makers →
        twoMapsets.at? other = some second → second.process.text ∈ Process.makers →
        datasetsAt run.calls position = datasetsAt run.calls other →
        (argumentsAt run.calls position node).inputs =
          (argumentsAt run.calls other second).inputs := by
  have built : twoMapsets.Built := minima_built _
  have separable : twoMapsets.Separable := by decide +kernel
  have compiled : (compile ⟨Catalog.builtin, 64⟩ (.sequential 1) twoMapsets).map Plan.outputs =
      .ok ["temperature_PERMANENT_min_time", "temperature_user1_min_time"] := by decide +kernel
  obtain ⟨plan, compiles, outputs⟩ := Outcome.map_eq_ok.mp compiled
  obtain ⟨⟨run, done, -, -, names⟩, -⟩ := compile_names 64 (.sequential 1) built compiles
  refine ⟨built, separable, plan, compiles, outputs, run, done, ?_⟩
  intro position node other second found maker alsoFound alsoMaker same
  exact (names position node other second found maker alsoFound alsoMaker same).2.2.2 separable

/-- Two minima over different series that get one name. -/
theorem twoCuts_glued : twoCuts.Built ∧
    twoCuts.at? [("imagery", 0)] = some (minimum "nc.c.strds.a_b") ∧
    twoCuts.at? [("imagery", 1)] = some (minimum "nc.b_c.strds.a") ∧
    (compile ⟨Catalog.builtin, 64⟩ (.sequential 1) twoCuts).map Plan.outputs =
      .ok ["a_b_c_min_time", "a_b_c_min_time"] ∧
    ∃ run, Compiler.run ⟨Catalog.builtin, 64⟩ 1 twoCuts (.new (.sequential 1)) = .ok run ∧
      datasetsAt run.calls [("imagery", 0)] = ["a_b_c_min_time"] ∧
      datasetsAt run.calls [("imagery", 1)] = ["a_b_c_min_time"] ∧
      (argumentsAt run.calls [("imagery", 0)] (minimum "nc.c.strds.a_b")).inputs = ["a_b@c"] ∧
      (argumentsAt run.calls [("imagery", 1)] (minimum "nc.b_c.strds.a")).inputs = ["a@b_c"] := by
  have ran : (Compiler.run ⟨Catalog.builtin, 64⟩ 1 twoCuts (.new (.sequential 1))).toOption.map
      (fun run => (datasetsAt run.calls [("imagery", 0)], datasetsAt run.calls [("imagery", 1)],
        (argumentsAt run.calls [("imagery", 0)] (minimum "nc.c.strds.a_b")).inputs,
        (argumentsAt run.calls [("imagery", 1)] (minimum "nc.b_c.strds.a")).inputs)) =
      some (["a_b_c_min_time"], ["a_b_c_min_time"], ["a_b@c"], ["a@b_c"]) := by decide +kernel
  obtain ⟨run, done, facts⟩ := Option.map_eq_some_iff.mp ran
  simp only [Prod.mk.injEq] at facts
  exact ⟨minima_built _, by decide +kernel, by decide +kernel, by decide +kernel, run,
    Outcome.toOption_eq_some.mp done, facts⟩

end Compiler

end GeoChain
