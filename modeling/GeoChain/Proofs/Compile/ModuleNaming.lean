import GeoChain.Proofs.Catalog.History
import GeoChain.Proofs.Compile.Naming

/-!
# Names of what modules make

A module that receives no data names its outputs after the step, and every step of a run has an id
of its own. A module that receives data names them after all datasets that it receives and after the
process; literals are no part of the names. So two nodes that run one module write a dataset of one
name only if the names of what they receive are glued to the same text; and if they receive the same
datasets, they do so whatever their literals are.
-/

namespace GeoChain

open Dataset

namespace IdSource

/-- No two steps get the same ending. -/
def Distinct : IdSource → Prop
  | sequential _ => True
  | random stream _ => Function.Injective stream

theorem advanceBy_random (stream : Nat → Uuid) (drawn count : Nat) :
    (random stream drawn).advanceBy count = random stream (drawn + count) := by
  induction count generalizing drawn with
  | zero => rfl
  | succ count ih => rw [advanceBy, advance, ih, Nat.add_right_comm, Nat.add_assoc]

theorem advanceBy_add (ids : IdSource) (first rest : Nat) :
    (ids.advanceBy first).advanceBy rest = ids.advanceBy (first + rest) := by
  cases ids with
  | sequential next => simp only [advanceBy_sequential, Nat.add_assoc]
  | random stream drawn => simp only [advanceBy_random, Nat.add_assoc]

theorem ending_unique {ids : IdSource} (distinct : ids.Distinct) {m n : Nat}
    (same : (ids.advanceBy m).ending = (ids.advanceBy n).ending) : m = n := by
  cases ids with
  | sequential next =>
    rw [advanceBy_sequential, advanceBy_sequential] at same
    exact Nat.add_left_cancel (Nat.repr_inj.mp same)
  | random stream drawn =>
    rw [advanceBy_random, advanceBy_random] at same
    exact Nat.add_left_cancel (distinct (Uuid.plainText_inj.mp same))

/-- An ending is made of digits, decimal or hexadecimal ones. -/
theorem notMem_ending {c : Char} (notDecimal : ¬ c.isDigit)
    (notHex : ∀ n < 16, Nat.digitChar n ≠ c) (ids : IdSource) : c ∉ ids.ending.toList := by
  cases ids with
  | sequential next =>
    rw [ending, Nat.toString_eq_repr, Nat.toList_repr]
    intro member
    exact notDecimal (Nat.isDigit_of_mem_toDigits (by decide) (by decide) member)
  | random stream drawn =>
    rw [ending, Uuid.plainText, String.toList_ofList, Uuid.plain]
    exact Uuid.not_mem_hexDigits notHex 32 _

/-- An ending is one piece: it has no underscore and no `@`. -/
theorem ending_clean (ids : IdSource) : '_' ∉ ids.ending.toList ∧ '@' ∉ ids.ending.toList :=
  ⟨ids.notMem_ending (by decide) (by decide), ids.notMem_ending (by decide) (by decide)⟩

end IdSource

namespace Dataset

/-- The name is glued from several pieces. -/
def Composed (name : String) : Prop := '_' ∈ plain name

theorem composed_glued (first rest : String) : Composed (first ++ "_" ++ rest) := by
  rw [Composed, plain_glued]
  exact List.mem_append_right _ List.mem_cons_self

theorem composed_joined {datasets : List String} (nonempty : datasets ≠ []) (process : String) :
    Composed (joined datasets process) := by
  cases datasets with
  | nil => exact absurd rfl nonempty
  | cons dataset rest => exact composed_glued _ _

theorem composed_of_at {name : String} (marked : '@' ∈ name.toList) : Composed name :=
  List.mem_map.mpr ⟨'@', marked, rfl⟩

/-- The id of a step has fewer underscores than a name that starts with the name of a dataset. -/
theorem stepId_ne_joined {datasets : List String} (nonempty : datasets ≠ [])
    (composed : ∀ dataset ∈ datasets, Composed dataset) (process : String) (ids : IdSource) :
    marked (ids.stepId process) ≠ marked (joined datasets process) := by
  intro same
  obtain ⟨noMark, noAt⟩ := ids.ending_clean
  rw [IdSource.stepId, marked_glued, marked_joined] at same
  -- The process is on both sides; the ending has one underscore, every dataset at least two.
  have counts := congrArg (List.count '_') same
  have last : (marked ids.ending).count '_' = 1 := by
    rw [marked, plain_eq_toList noAt, List.count_cons_self, List.count_eq_zero.mpr noMark]
  obtain ⟨dataset, rest, rfl⟩ := List.exists_cons_of_ne_nil nonempty
  have inside : 0 < (plain dataset).count '_' :=
    List.count_pos_iff.mpr (composed dataset List.mem_cons_self)
  have first : (marked dataset).count '_' = (plain dataset).count '_' + 1 :=
    List.count_cons_self
  rw [List.flatMap_cons, List.count_append, List.count_append, List.count_append, last,
    first] at counts
  omega

end Dataset

theorem Stage.composed_dataset {stage : Stage} {inputs : List String}
    (count : inputs.length = stage.arity) : Composed (stage.dataset inputs) := by
  have nonempty : inputs ≠ [] := by
    rintro rfl
    rw [arity] at count
    split at count <;> cases count
  rw [dataset]
  split
  · exact composed_joined nonempty _
  · exact composed_glued _ _

namespace ModuleRun

variable {run : ModuleRun} {arguments : Arguments} {stepId : String} {made : Draft}

/-- What a call of a module makes. -/
theorem draft_datasets (drafted : run.draft arguments stepId = .ok made) :
    made.commands.length = 1 ∧ made.datasets =
      if run.outputs = [] then received arguments.values
      else run.outputs.map (run.outputDataset
        (base stepId arguments.process.text (received arguments.values))) := by
  obtain rfl := settled_of_draft drafted
  exact ⟨rfl, rfl⟩

theorem base_of_data {datasets : List String} (some : datasets ≠ []) (stepId process : String) :
    base stepId process datasets = joined datasets process :=
  if_neg fun empty => some (List.isEmpty_iff.mp empty)

theorem base_of_none (stepId process : String) : base stepId process [] = stepId := rfl

theorem composed_base (ids : IdSource) (process : String) (datasets : List String) :
    Composed (base (ids.stepId process) process datasets) := by
  by_cases none : datasets = []
  · rw [none, base_of_none]
    exact composed_glued _ _
  · rw [base_of_data none]
    exact composed_joined none process

theorem composed_outputDataset {base : String} (composed : Composed base) (output : String) :
    Composed (run.outputDataset base output) := by
  rw [outputDataset]
  split
  · exact composed
  · exact composed_glued _ _

/-- No text ends in the names of two of the outputs. -/
def Separable (run : ModuleRun) : Prop :=
  ∀ one ∈ run.outputs, ∀ other ∈ run.outputs, Apart marked one other

/-- Where two outputs get one name, they are named after the same text. -/
theorem Separable.base_unique (separable : run.Separable) {first second one other : String}
    (member : one ∈ run.outputs) (among : other ∈ run.outputs)
    (same : run.outputDataset first one = run.outputDataset second other) :
    marked first = marked second := by
  rw [outputDataset, outputDataset] at same
  by_cases single : run.outputs.length = 1
  · rw [if_pos single, if_pos single] at same
    rw [same]
  · rw [if_neg single, if_neg single] at same
    have glued := congrArg marked same
    rw [marked_glued, marked_glued] at glued
    exact ((separable one member other among).last glued).2

/-- Two calls with steps of their own name their outputs after the same text only if both receive
data, with names that are glued to the same text. -/
theorem received_glued {ids : IdSource} (distinct : ids.Distinct) {m n : Nat} (apart : m ≠ n)
    {process : String} {first second : List String}
    (composed : ∀ dataset ∈ first, Composed dataset)
    (alsoComposed : ∀ dataset ∈ second, Composed dataset)
    (same : marked (base ((ids.advanceBy m).stepId process) process first) =
      marked (base ((ids.advanceBy n).stepId process) process second)) :
    first ≠ [] ∧ second ≠ [] ∧ first.flatMap marked = second.flatMap marked := by
  by_cases none : first = []
  · subst none
    rw [base_of_none] at same
    by_cases alsoNone : second = []
    · subst alsoNone
      rw [base_of_none, IdSource.stepId, IdSource.stepId, marked_glued, marked_glued] at same
      have endings := (List.cons.inj (List.append_cancel_left same)).2
      rw [plain_eq_toList (IdSource.ending_clean _).2,
        plain_eq_toList (IdSource.ending_clean _).2] at endings
      exact absurd (IdSource.ending_unique distinct (String.toList_inj.mp endings)) apart
    · rw [base_of_data alsoNone] at same
      exact absurd same (stepId_ne_joined alsoNone alsoComposed process _)
  · rw [base_of_data none] at same
    by_cases alsoNone : second = []
    · subst alsoNone
      rw [base_of_none] at same
      exact absurd same.symm (stepId_ne_joined none composed process _)
    · rw [base_of_data alsoNone, marked_joined, marked_joined] at same
      exact ⟨none, alsoNone, List.append_cancel_right same⟩

end ModuleRun

/-- Of two calls of a run that run commands, one has more commands before it. -/
theorem commandsBefore_ne {calls before earlier later last : List Call} {one other : Call}
    (split : calls = before ++ one :: later) (alsoSplit : calls = earlier ++ other :: last)
    (distinct : one.position ≠ other.position) (runs : one.product.commands ≠ [])
    (alsoRuns : other.product.commands ≠ []) :
    (commandsOf before).length ≠ (commandsOf earlier).length := by
  have longer : ∀ {first rest : List Call} {call : Call}, call.product.commands ≠ [] →
      (commandsOf first).length < (commandsOf (first ++ call :: rest)).length := by
    intro first rest call some
    have positive := List.length_pos_of_ne_nil some
    have grown : commandsOf (first ++ call :: rest) =
        commandsOf first ++ (call.product.commands ++ commandsOf rest) := commandsOf_append _ _
    rw [grown, List.length_append, List.length_append]
    omega
  -- One of the two calls stands before the other, since they are different.
  rcases List.append_eq_append_iff.mp (split.symm.trans alsoSplit) with
    ⟨between, grown, rest⟩ | ⟨between, grown, rest⟩
  · cases between with
    | nil => exact absurd (congrArg Call.position (List.cons.inj rest).1) distinct
    | cons call between =>
      rw [grown, ← (List.cons.inj rest).1]
      exact Nat.ne_of_lt (longer runs)
  · cases between with
    | nil => exact absurd (congrArg Call.position (List.cons.inj rest).1).symm distinct
    | cons call between =>
      rw [grown, ← (List.cons.inj rest).1]
      exact Nat.ne_of_gt (longer alsoRuns)

namespace Compiler

variable {modules : List Module} {maxDepth depth : Nat} {graph : Node} {context : Context}
  {final : Run}

/-- A run draws one id for each command. -/
theorem through_ids {events : List Event}
    (done : through ⟨Catalog.importing modules, maxDepth⟩ depth events ⟨[], context⟩ = .ok final) :
    final.context.ids = context.ids.advanceBy (commandsOf final.calls).length := by
  refine through_keeps (P := fun run =>
    run.context.ids = context.ids.advanceBy (commandsOf run.calls).length) ?_ rfl done
  intro position node run next drawn left
  obtain ⟨call, grown, -, -, -, moved⟩ := leave_numbers left
  have own : commandsOf [call] = call.product.commands := by simp [commandsOf]
  rw [moved, drawn, IdSource.advanceBy_add, grown, commandsOf_append, own, List.length_append]

/-- What holds of every dataset that a graph loads, and is kept by the stages of built-in processes
and by the names of what modules make, holds of every dataset of a run. -/
theorem importing_induction {P : String → Prop} (ordered : graph.Ordered)
    (done : Compiler.run ⟨Catalog.importing modules, maxDepth⟩ depth graph context = .ok final)
    (loaded : ∀ dataset ∈ graph.loaded, P dataset)
    (staged : ∀ {stage : Stage} {inputs}, stage.Valid → inputs.length = stage.arity →
      (∀ input ∈ inputs, P input) → P (stage.dataset inputs))
    (named : ∀ module ∈ modules, ∀ run, module.Runs run → ∀ (ids : IdSource) (process : ProcessId)
      (datasets : List String), (∀ dataset ∈ datasets, P dataset) → ∀ output ∈ run.outputs,
      P (run.outputDataset (ModuleRun.base (ids.stepId process.text) process.text datasets) output))
    {position : Position} {node : Node} (found : graph.at? position = some node) :
    ∀ dataset ∈ datasetsAt final.calls position, P dataset := by
  refine datasetsAt_induction ordered done ?_ found
  intro position node entry early late product found resolved called received
  rcases Catalog.mem_registerAll (Catalog.mem_of_find? resolved) with imported | builtIn
  · obtain ⟨module, listed, run, runs, emits⟩ := Catalog.runs_of_mem_entriesOf imported
    rw [emits] at called
    obtain ⟨made, isDraft, rfl, -⟩ := run.emit_follows.made called
    intro dataset member
    rw [Draft.product, (ModuleRun.draft_datasets isDraft).2] at member
    split at member
    · exact received dataset member
    · obtain ⟨output, among, rfl⟩ := List.mem_map.mp member
      exact named module listed run runs early.ids node.process _ received output among
  · obtain ⟨draft, drafts⟩ := Process.builtins_drafted (Catalog.mem_builtin builtIn)
    obtain ⟨made, isDraft, rfl, -⟩ := drafts.follows.made called
    have makes := drafts.makes (Catalog.id_of_find? resolved).symm isDraft
    rw [Draft.product]
    generalize made.datasets = datasets at makes
    cases makes with
    | loads loader held read =>
      have loads := Node.loads?_of_read loader (get?_valuesAt.mp held) read
      simpa using loaded _ (Node.mem_loaded ordered found loads)
    | passes _ main =>
      obtain ⟨name, held⟩ := Arguments.primaryData_ok main
      exact fun dataset member => received dataset (Arguments.received_of_get? held member)
    | makes valid count among =>
      simpa using staged valid count fun dataset member => received dataset (among dataset member)

/-- Every dataset of a run is glued from several pieces. -/
theorem composed_at (ordered : graph.Ordered)
    (done : Compiler.run ⟨Catalog.importing modules, maxDepth⟩ depth graph context = .ok final)
    {position : Position} {node : Node} (found : graph.at? position = some node) :
    ∀ dataset ∈ datasetsAt final.calls position, Composed dataset :=
  importing_induction ordered done
    (fun _ member => composed_of_at (Node.at_mem_of_loaded member))
    (fun _ count _ => Stage.composed_dataset count)
    (fun _ _ _ _ ids process datasets _ output _ =>
      ModuleRun.composed_outputDataset (ModuleRun.composed_base ids process.text datasets) output)
    found

theorem composed_received (ordered : graph.Ordered)
    (done : Compiler.run ⟨Catalog.importing modules, maxDepth⟩ depth graph context = .ok final)
    {position : Position} {node : Node} (found : graph.at? position = some node) :
    ∀ dataset ∈ ModuleRun.received (argumentsAt final.calls position node).values,
      Composed dataset := by
  intro dataset member
  obtain ⟨-, -, child, -, below, reached, inside⟩ := nested_at_of_received ordered found member
  exact composed_at ordered done reached dataset inside

/-- What the node of a module makes in a run, after the step id that it draws. -/
theorem module_at (ordered : graph.Ordered)
    (done : Compiler.run ⟨Catalog.importing modules, maxDepth⟩ depth graph context = .ok final)
    {position : Position} {node : Node} (found : graph.at? position = some node)
    {runs : ModuleRun} (speaks : runs.outputs ≠ [])
    (resolves : (Catalog.importing modules).resolve node.process.text = .ok runs.emit) :
    ∃ before call later, final.calls = before ++ call :: later ∧ call.position = position ∧
      call.product.commands ≠ [] ∧ datasetsAt final.calls position =
        runs.outputs.map (runs.outputDataset (ModuleRun.base
          ((context.ids.advanceBy (commandsOf before).length).stepId node.process.text)
          node.process.text
          (ModuleRun.received (argumentsAt final.calls position node).values))) := by
  obtain ⟨before, call, later, events, early, late, entry, grown, here, arguments, ran, resolved,
    called, datasets, -⟩ := call_executed ordered done found
  obtain ⟨other, same, emits⟩ := Catalog.resolve_ok.mp resolves
  cases resolved.symm.trans same
  rw [emits, arguments] at called
  obtain ⟨made, isDraft, product, -⟩ := runs.emit_follows.made called
  obtain ⟨single, names⟩ := ModuleRun.draft_datasets isDraft
  have ids : early.ids = context.ids.advanceBy (commandsOf before).length := through_ids ran
  refine ⟨before, call, later, grown, here, ?_, ?_⟩
  · rw [product, Draft.product]
    refine List.ne_nil_of_length_pos ?_
    rw [length_number, single]
    exact Nat.one_pos
  · rw [datasets, product, Draft.product, names, if_neg speaks, ← ids]
    rfl

/-- Two nodes that run one module write a dataset of one name only if both receive data, and their
names are glued to the same text; so they receive the same datasets, if no text ends in the names of
two of them. Conversely, nodes that receive the same datasets write the same datasets, whatever
their literals are. -/
theorem compile_module_names (modules : List Module) (maxDepth : Nat) (ids : IdSource)
    (distinct : ids.Distinct) {graph : Node} (built : graph.Built) {plan : Plan}
    (compiled : compile ⟨Catalog.importing modules, maxDepth⟩ ids graph = .ok plan) :
    ∃ run, Compiler.run ⟨Catalog.importing modules, maxDepth⟩ 1 graph (.new ids) = .ok run ∧
      plan.commands = commandsOf run.calls ∧
      ∀ (runs : ModuleRun) position node other second, runs.outputs ≠ [] →
        graph.at? position = some node →
        (Catalog.importing modules).resolve node.process.text = .ok runs.emit →
        graph.at? other = some second → second.process = node.process → position ≠ other →
        ∀ first rest,
          ModuleRun.received (argumentsAt run.calls position node).values = first →
          ModuleRun.received (argumentsAt run.calls other second).values = rest →
          (first = rest → first ≠ [] →
            datasetsAt run.calls position = datasetsAt run.calls other) ∧
          (runs.Separable → ∀ dataset ∈ datasetsAt run.calls position,
            dataset ∈ datasetsAt run.calls other →
            first ≠ [] ∧ rest ≠ [] ∧ first.flatMap marked = rest.flatMap marked ∧
            ((∀ one ∈ first, ∀ other ∈ rest, Apart marked one other) → first = rest)) := by
  have ordered := built.ordered
  obtain ⟨final, done, -, -, commands⟩ := (compile_ok ordered).mp compiled
  refine ⟨final, done, commands, ?_⟩
  rintro runs position node other second speaks found resolves alsoFound process apart _ _ rfl rfl
  obtain ⟨before, call, later, split, here, busy, datasets⟩ :=
    module_at ordered done found speaks resolves
  obtain ⟨earlier, alsoCall, last, alsoSplit, there, alsoBusy, alsoDatasets⟩ :=
    module_at ordered done alsoFound speaks (process ▸ resolves)
  rw [process] at alsoDatasets
  have composed := fun {position node} (found : graph.at? position = some node) =>
    composed_received ordered done found
  constructor
  · intro same some
    rw [datasets, alsoDatasets, ← same, ModuleRun.base_of_data some, ModuleRun.base_of_data some]
  · intro separable dataset written alsoWritten
    rw [datasets] at written
    rw [alsoDatasets] at alsoWritten
    obtain ⟨output, member, rfl⟩ := List.mem_map.mp written
    obtain ⟨alsoOutput, among, same⟩ := List.mem_map.mp alsoWritten
    have steps := commandsBefore_ne split alsoSplit (here.symm ▸ there.symm ▸ apart) busy alsoBusy
    obtain ⟨some, alsoSome, glued⟩ := ModuleRun.received_glued distinct steps (composed found)
      (composed alsoFound) (separable.base_unique member among same.symm)
    exact ⟨some, alsoSome, glued, fun pieces => pieces_of_eq marked_ne_nil pieces glued⟩

/-- A module with one output. -/
def neighbors : Module :=
  (Module.new "r.neighbors" "").withReturn ⟨"output", "", false, .empty⟩

/-- A call of the module on a stored layer, with a literal. -/
def neighborhood (reference : String) (size : Int) : Node :=
  (Node.new neighbors.process).withArgument "input" (.node (storedData reference))
    |>.withArgument "size" (.literal (.int size))

theorem neighborhood_built (reference : String) (size : Int) :
    (neighborhood reference size).Built :=
  .withLiteral (.withNode (.new _) _ (storedData_built reference)) _ _

theorem neighbors_resolve :
    (Catalog.importing [neighbors]).resolve neighbors.process.text = .ok neighbors.run.emit :=
  Catalog.resolve_ok.mpr ⟨⟨neighbors.described, neighbors.run.emit⟩,
    (Catalog.find?_place _ _ _).trans (if_pos rfl), rfl⟩

theorem neighbors_separable : neighbors.run.Separable := by
  intro one member other among text _ _
  exact (List.mem_singleton.mp member).trans (List.mem_singleton.mp among).symm

/-- The export of several such calls. -/
def neighborhoods (calls : List (String × Int)) : Node :=
  exported (calls.map fun call => neighborhood call.1 call.2)

theorem neighborhoods_built (calls : List (String × Int)) : (neighborhoods calls).Built := by
  refine .withNodes (.new _) _ _ fun child member => ?_
  obtain ⟨call, -, rfl⟩ := List.mem_map.mp member
  exact neighborhood_built _ _

def twoLayers : Node :=
  neighborhoods [("nc.PERMANENT.raster.elevation", 3), ("nc.PERMANENT.raster.slope", 3)]

/-- Two calls on one layer that differ in a literal. -/
def twoSizes : Node :=
  neighborhoods [("nc.PERMANENT.raster.elevation", 3), ("nc.PERMANENT.raster.elevation", 5)]

theorem twoLayers_named : (IdSource.sequential 1).Distinct ∧ twoLayers.Built ∧ ∃ plan,
    compile ⟨Catalog.importing [neighbors], 64⟩ (.sequential 1) twoLayers = .ok plan ∧
    plan.location = "nc" ∧ ∃ run,
      Compiler.run ⟨Catalog.importing [neighbors], 64⟩ 1 twoLayers (.new (.sequential 1)) =
        .ok run ∧
      ∀ dataset ∈ datasetsAt run.calls [("imagery", 0)],
        dataset ∉ datasetsAt run.calls [("imagery", 1)] := by
  have compiled : (compile ⟨Catalog.importing [neighbors], 64⟩ (.sequential 1) twoLayers).map
      Plan.location = .ok "nc" := by decide +kernel
  have ran : (Compiler.run ⟨Catalog.importing [neighbors], 64⟩ 1 twoLayers
      (.new (.sequential 1))).toOption.map (fun run =>
        (ModuleRun.received (argumentsAt run.calls [("imagery", 0)]
          (neighborhood "nc.PERMANENT.raster.elevation" 3)).values,
        ModuleRun.received (argumentsAt run.calls [("imagery", 1)]
          (neighborhood "nc.PERMANENT.raster.slope" 3)).values)) =
      some (["elevation@PERMANENT"], ["slope@PERMANENT"]) := by decide +kernel
  obtain ⟨plan, compiles, location⟩ := Outcome.map_eq_ok.mp compiled
  obtain ⟨final, alsoDone, received⟩ := Option.map_eq_some_iff.mp ran
  obtain ⟨run, done, -, names⟩ := compile_module_names [neighbors] 64 (.sequential 1) trivial
    (neighborhoods_built _) compiles
  obtain rfl : final = run :=
    Except.ok.inj ((Outcome.toOption_eq_some.mp alsoDone).symm.trans done)
  obtain ⟨first, rest⟩ := Prod.mk.inj received
  refine ⟨trivial, neighborhoods_built _, plan, compiles, location, final, done, ?_⟩
  intro dataset written alsoWritten
  have here : twoLayers.at? [("imagery", 0)] =
      some (neighborhood "nc.PERMANENT.raster.elevation" 3) := by decide +kernel
  have there : twoLayers.at? [("imagery", 1)] =
      some (neighborhood "nc.PERMANENT.raster.slope" 3) := by decide +kernel
  have shared := (names neighbors.run _ _ _ _ (by decide) here neighbors_resolve there rfl
    (by decide) _ _ first rest).2 neighbors_separable dataset written alsoWritten
  exact absurd shared.2.2.1 (by decide)

/-- Two calls with different literals that write one dataset. -/
theorem twoSizes_overwritten : twoSizes.Built ∧
    twoSizes.at? [("imagery", 0)] = some (neighborhood "nc.PERMANENT.raster.elevation" 3) ∧
    twoSizes.at? [("imagery", 1)] = some (neighborhood "nc.PERMANENT.raster.elevation" 5) ∧
    (compile ⟨Catalog.importing [neighbors], 64⟩ (.sequential 1) twoSizes).map Plan.outputs =
      .ok ["elevation_PERMANENT_r_neighbors", "elevation_PERMANENT_r_neighbors"] ∧
    ∃ run,
      Compiler.run ⟨Catalog.importing [neighbors], 64⟩ 1 twoSizes (.new (.sequential 1)) =
        .ok run ∧
      datasetsAt run.calls [("imagery", 0)] = ["elevation_PERMANENT_r_neighbors"] ∧
      datasetsAt run.calls [("imagery", 1)] = ["elevation_PERMANENT_r_neighbors"] := by
  have ran : (Compiler.run ⟨Catalog.importing [neighbors], 64⟩ 1 twoSizes
      (.new (.sequential 1))).toOption.map (fun run =>
        (datasetsAt run.calls [("imagery", 0)], datasetsAt run.calls [("imagery", 1)])) =
      some (["elevation_PERMANENT_r_neighbors"], ["elevation_PERMANENT_r_neighbors"]) := by
    decide +kernel
  obtain ⟨run, done, facts⟩ := Option.map_eq_some_iff.mp ran
  exact ⟨neighborhoods_built _, by decide +kernel, by decide +kernel, by decide +kernel, run,
    Outcome.toOption_eq_some.mp done, Prod.mk.inj facts⟩

end Compiler

end GeoChain
