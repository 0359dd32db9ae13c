import GeoChain.Proofs.Catalog.ModuleCall

/-!
# Lists of datasets in commands

An index and a module hand several datasets to their command in one input, with commas between
them. Such a list is split into the same datasets again exactly if there are any and none of them
has a comma, and the command reads exactly those that have none. References to stored datasets and
the outputs of modules may have commas. If none of them does, no dataset of the graph has one.
-/

namespace GeoChain

open Dataset

namespace Command

variable {command : Command} {param : String} {datasets : List String}

theorem split_list_eq_iff :
    Text.split ',' (",".intercalate datasets).toList = datasets.map String.toList ↔
      datasets ≠ [] ∧ ∀ dataset ∈ datasets, ',' ∉ dataset.toList := by
  rw [String.toList_intercalate]
  refine Text.split_intercalate_eq_iff.trans ?_
  rw [List.forall_mem_map, Ne, List.map_eq_nil_iff]

/-- Of the datasets that an input lists, a command reads exactly those without a comma. -/
theorem reads_iff (given : command.input? param = some (",".intercalate datasets))
    {dataset : String} (member : dataset ∈ datasets) :
    command.reads dataset ↔ ',' ∉ dataset.toList := by
  simp only [reads, List.any_eq_true, List.contains_iff_mem]
  constructor
  · rintro ⟨input, -, part⟩
    exact Text.notMem_of_mem_split part
  · intro plain
    obtain ⟨input, found, same⟩ := Option.map_eq_some_iff.mp given
    refine ⟨input, List.mem_of_find?_eq_some found, ?_⟩
    rw [same, String.toList_intercalate]
    exact (Text.mem_split_intercalate (List.mem_map_of_mem member)).mpr plain

end Command

/-- The datasets that a call of a process joins, and the input of its command that gets them: the
bands of an index, or the data of an argument of a module. -/
inductive Arguments.Joins (arguments : Arguments) : Emitter → String → List String → Prop where
  | bands (index : arguments.process.text = Process.Ndvi.name) :
      Joins arguments Process.Ndvi.emit "inputs" arguments.inputs
  | data (run : ModuleRun) {name : String} {datasets : List String}
      (given : (name, .data datasets) ∈ arguments.values) : Joins arguments run.emit name datasets

theorem Arguments.Joins.received {arguments : Arguments} {emitter : Emitter} {param : String}
    {datasets : List String} (joins : arguments.Joins emitter param datasets) {dataset : String}
    (member : dataset ∈ datasets) : dataset ∈ ModuleRun.received arguments.values := by
  cases joins with
  | bands index =>
    rw [inputs, if_pos index] at member
    obtain ⟨band, -, inside⟩ := List.mem_flatMap.mp member
    cases held : arguments.data? band with
    | none => simp [held] at inside
    | some datasets =>
      rw [held, Option.getD_some] at inside
      exact received_of_get? (data?_eq_some.mp held) inside
  | data run given => exact mem_received.mpr ⟨param, datasets, given, member⟩

theorem Process.Ndvi.draft_joins {arguments : Arguments} {made : Draft}
    (index : arguments.process.text = name) (drafted : draft arguments = .ok made) :
    ∃ command, made.commands = [command] ∧
      command.input? "inputs" = some (",".intercalate arguments.inputs) := by
  simp only [draft, Outcome.bind_eq_ok, Outcome.pure_eq, Except.ok.injEq] at drafted
  obtain ⟨red, redHeld, nir, nirHeld, rfl⟩ := drafted
  have inputs : arguments.inputs = [red, nir] := by
    rw [Arguments.inputs, if_pos index]
    simp [Arguments.data?_eq_some.mpr (Arguments.requireSingle_ok.mp redHeld),
      Arguments.data?_eq_some.mpr (Arguments.requireSingle_ok.mp nirHeld)]
  rw [inputs]
  exact ⟨_, rfl, rfl⟩

namespace ModuleRun

theorem find?_inputs {values : List (String × Value)} (increasing : Keyed.Increasing values)
    {name text : String} {value : Value} (member : (name, value) ∈ values)
    (given : inputText? value = some text) :
    (inputs values).find? (fun input => input.param = name) = some ⟨name, text, none⟩ := by
  induction values with
  | nil => cases member
  | cons first rest ih =>
    obtain ⟨above, later⟩ := Keyed.increasing_cons.mp increasing
    rcases List.mem_cons.mp member with rfl | among
    · simp [inputs, given]
    · have apart : first.1 ≠ name := String.ne_of_lt (above _ among)
      have skipped : (inputs (first :: rest)).find? (fun input => input.param = name) =
          (inputs rest).find? (fun input => input.param = name) := by
        cases held : inputText? first.2 with
        | none => simp [inputs, held]
        | some other => simp [inputs, held, apart]
      rw [skipped]
      exact ih later among

theorem input?_command (run : ModuleRun) {values : List (String × Value)}
    (increasing : Keyed.Increasing values) {name : String} {datasets : List String}
    (member : (name, .data datasets) ∈ values) (stepId base : String) :
    (run.command values stepId base).input? name = some (",".intercalate datasets) := by
  rw [Command.input?, command, find?_inputs increasing member rfl]
  rfl

/-- Every successful call of a module is one command. -/
theorem commands_emit {run : ModuleRun} {arguments : Arguments} {context after : Context}
    {product : Product} (called : (run.emit arguments).execute context = (.ok product, after)) :
    ∃ stepId base, product.commands = [run.command arguments.values stepId base] := by
  obtain ⟨made, isDraft, rfl, -⟩ := run.emit_follows.made called
  obtain rfl := settled_of_draft isDraft
  exact ⟨_, _, rfl⟩

end ModuleRun

/-- A call that joins datasets is one command, and the command lists them in the input. -/
theorem Arguments.Joins.command {arguments : Arguments} {emitter : Emitter} {param : String}
    {datasets : List String} (joins : arguments.Joins emitter param datasets)
    (increasing : Keyed.Increasing arguments.values) {context after : Context} {product : Product}
    (called : (emitter arguments).execute context = (.ok product, after)) :
    ∃ command, product.commands = [command] ∧
      command.input? param = some (",".intercalate datasets) := by
  cases joins with
  | bands index =>
    obtain ⟨made, isDraft, rfl, -⟩ := Process.Ndvi.emit_follows.made called
    obtain ⟨command, single, given⟩ := Process.Ndvi.draft_joins index isDraft
    rw [Draft.product, single]
    exact ⟨_, rfl, given⟩
  | data run member =>
    obtain ⟨stepId, base, single⟩ := ModuleRun.commands_emit called
    exact ⟨_, single, run.input?_command increasing member stepId base⟩

/-! ### Where commas come from -/

namespace Dataset

/-- Gluing names keeps their commas and adds none. -/
theorem comma_mem_marked {name : String} : ',' ∈ marked name ↔ ',' ∈ name.toList := by
  rw [marked, plain, List.mem_cons, List.mem_map]
  constructor
  · rintro (mark | ⟨c, member, same⟩)
    · exact absurd mark (by decide)
    · rw [counted] at same
      split at same
      · exact absurd same (by decide)
      · exact same ▸ member
  · exact fun member => Or.inr ⟨',', member, by decide⟩

theorem comma_mem_glued {first rest : String} : ',' ∈ (first ++ "_" ++ rest).toList ↔
    ',' ∈ first.toList ∨ ',' ∈ rest.toList := by
  rw [← comma_mem_marked, marked_glued, List.mem_append, comma_mem_marked, comma_mem_marked]

theorem comma_mem_joined {datasets : List String} {process : String} :
    ',' ∈ (joined datasets process).toList ↔
      (∃ dataset ∈ datasets, ',' ∈ dataset.toList) ∨ ',' ∈ process.toList := by
  rw [← comma_mem_marked, marked_joined, List.mem_append, List.mem_flatMap]
  simp only [comma_mem_marked]

end Dataset

theorem ProcessId.comma_notMem (process : ProcessId) : ',' ∉ process.text.toList := by
  intro member
  have allowed := List.all_eq_true.mp process.valid.2 ',' member
  exact absurd allowed (by decide)

/-- A stage puts no comma into a name. -/
theorem Stage.Valid.comma_mem_dataset {stage : Stage} (valid : stage.Valid)
    {inputs : List String} :
    ',' ∈ (stage.dataset inputs).toList ↔ ∃ input ∈ inputs, ',' ∈ input.toList := by
  have noMaker : ∀ process ∈ Process.makers, ',' ∉ marked process := by decide
  have noPiece : ',' ∉ stage.piece := by
    rw [piece, List.mem_append, List.mem_flatMap]
    rintro (⟨key, member, inside⟩ | inside)
    · obtain ⟨literal, rfl⟩ := valid.digest key (Option.mem_toList.mp member)
      exact notMem_literalKey (by decide) literal (comma_mem_marked.mp inside)
    · exact noMaker _ valid.maker inside
  rw [← comma_mem_marked, marked_dataset, List.mem_append, or_iff_left noPiece, List.mem_flatMap]
  simp only [comma_mem_marked]

/-- No comma gets into a graph: no dataset that it loads has one, and neither does an output that is
put behind the name of its module. -/
structure Node.Commaless (graph : Node) (modules : List Module) : Prop where
  loaded : ∀ dataset ∈ graph.loaded, ',' ∉ dataset.toList
  outputs : ∀ module ∈ modules, module.hasSeveralOutputs →
    ∀ output ∈ module.returns, ',' ∉ output.name.toList

namespace ModuleRun

theorem comma_mem_base {ids : IdSource} {process : ProcessId} {datasets : List String} :
    ',' ∈ (base (ids.stepId process.text) process.text datasets).toList ↔
      ∃ dataset ∈ datasets, ',' ∈ dataset.toList := by
  have noProcess := process.comma_notMem
  by_cases none : datasets = []
  · have noEnding := ids.notMem_ending (by decide : ¬ ','.isDigit) (by decide)
    rw [none, base_of_none, IdSource.stepId, comma_mem_glued]
    simp [noProcess, noEnding]
  · rw [base_of_data none, comma_mem_joined, or_iff_left noProcess]

theorem comma_notMem_outputDataset {module : Module} {run : ModuleRun} (runs : module.Runs run)
    (plain : module.hasSeveralOutputs → ∀ output ∈ module.returns, ',' ∉ output.name.toList)
    {base : String} (noComma : ',' ∉ base.toList) {output : String} (member : output ∈ run.outputs) :
    ',' ∉ (run.outputDataset base output).toList := by
  rw [outputDataset]
  split
  · exact noComma
  · rename_i notSingle
    -- Only a run with all outputs has several, and it has the outputs that the module declares.
    rcases runs with rfl | ⟨-, other, -, rfl⟩
    · obtain ⟨declared, listed, rfl⟩ := List.mem_map.mp member
      have several : module.hasSeveralOutputs := by
        have positive := List.length_pos_of_mem listed
        rw [Module.run, List.length_map] at notSingle
        simp only [Module.hasSeveralOutputs, decide_eq_true_eq]
        omega
      rw [comma_mem_glued]
      exact fun inside => inside.elim noComma (plain several declared listed)
    · exact absurd rfl notSingle

end ModuleRun

namespace Compiler

variable {modules : List Module} {maxDepth depth : Nat} {graph : Node} {context : Context}
  {final : Run}

theorem comma_notMem_at (commaless : graph.Commaless modules) (ordered : graph.Ordered)
    (done : Compiler.run ⟨Catalog.importing modules, maxDepth⟩ depth graph context = .ok final)
    {position : Position} {node : Node} (found : graph.at? position = some node) :
    ∀ dataset ∈ datasetsAt final.calls position, ',' ∉ dataset.toList := by
  refine importing_induction ordered done commaless.loaded ?_ ?_ found
  · intro stage inputs valid _ plain inside
    obtain ⟨input, member, comma⟩ := valid.comma_mem_dataset.mp inside
    exact plain input member comma
  · intro module listed run runs ids process datasets plain output member
    refine ModuleRun.comma_notMem_outputDataset runs (commaless.outputs module listed) ?_ member
    rw [ModuleRun.comma_mem_base]
    rintro ⟨dataset, among, comma⟩
    exact plain dataset among comma

/-- Every list of datasets in the command of an index or of a module is what the node receives, with
commas between. It is split into the same datasets exactly if there are any and none has a comma, and
the command reads exactly those that have none. If no comma gets into the graph, none has one. -/
theorem compile_lists (modules : List Module) (maxDepth : Nat) (ids : IdSource) {graph : Node}
    (built : graph.Built) {plan : Plan}
    (compiled : compile ⟨Catalog.importing modules, maxDepth⟩ ids graph = .ok plan) :
    ∃ run, Compiler.run ⟨Catalog.importing modules, maxDepth⟩ 1 graph (.new ids) = .ok run ∧
      plan.commands = commandsOf run.calls ∧
      ∀ position node emitter, graph.at? position = some node →
        (Catalog.importing modules).resolve node.process.text = .ok emitter →
        ∀ param datasets, (argumentsAt run.calls position node).Joins emitter param datasets →
          ∃ call ∈ run.calls, ∃ command value, call.position = position ∧
            call.product.commands = [command] ∧ command.input? param = some value ∧
            value = ",".intercalate datasets ∧
            (Text.split ',' value.toList = datasets.map String.toList ↔
              datasets ≠ [] ∧ ∀ dataset ∈ datasets, ',' ∉ dataset.toList) ∧
            (∀ dataset ∈ datasets, command.reads dataset ↔ ',' ∉ dataset.toList) ∧
            (graph.Commaless modules → ∀ dataset ∈ datasets, ',' ∉ dataset.toList) := by
  have ordered := built.ordered
  obtain ⟨final, done, -, -, commands⟩ := (compile_ok ordered).mp compiled
  refine ⟨final, done, commands, ?_⟩
  intro position node emitter found resolves param datasets joins
  obtain ⟨before, call, later, -, early, late, entry, grown, here, arguments, -, resolved, called,
    -⟩ := call_executed ordered done found
  obtain ⟨other, same, emits⟩ := Catalog.resolve_ok.mp resolves
  cases resolved.symm.trans same
  rw [arguments, emits] at called
  have increasing : Keyed.Increasing (argumentsAt final.calls position node).values :=
    increasing_valuesAt (ordered.at found).increasing
  obtain ⟨command, single, given⟩ := joins.command increasing called
  refine ⟨call, grown ▸ List.mem_append_right _ List.mem_cons_self, command, _, here, single, given,
    rfl, Command.split_list_eq_iff, fun dataset member => Command.reads_iff given member, ?_⟩
  intro commaless dataset member
  obtain ⟨-, -, child, -, below, reached, inside⟩ :=
    nested_at_of_received ordered found (joins.received member)
  exact comma_notMem_at commaless ordered done reached dataset inside

/-- The index of a red and a near-infrared series. -/
def indexed (red nir : String) : Node :=
  (Node.new (.sanitize Process.Ndvi.name)).withArgument "red" (.node (storedData red))
    |>.withArgument "nir" (.node (storedData nir))

theorem indexed_built (red nir : String) : (indexed red nir).Built :=
  .withNode (.withNode (.new _) _ (storedData_built red)) _ (storedData_built nir)

theorem index_resolves : (Catalog.importing []).resolve Process.Ndvi.name =
    .ok Process.Ndvi.emit := rfl

def twoBands : Node := indexed "nc.PERMANENT.strds.red" "nc.PERMANENT.strds.nir"

theorem twoBands_listed : twoBands.Built ∧ twoBands.Commaless [] ∧ ∃ plan,
    compile ⟨Catalog.importing [], 64⟩ (.sequential 1) twoBands = .ok plan ∧
    plan.outputs = ["red_PERMANENT_nir_PERMANENT_ndvi"] ∧
    ∃ command ∈ plan.commands,
      command.input? "inputs" = some "red@PERMANENT,nir@PERMANENT" ∧
      command.reads "red@PERMANENT" ∧ command.reads "nir@PERMANENT" := by
  have built : twoBands.Built := indexed_built _ _
  have commaless : twoBands.Commaless [] :=
    ⟨by decide +kernel, fun module listed => absurd listed List.not_mem_nil⟩
  have compiled : (compile ⟨Catalog.importing [], 64⟩ (.sequential 1) twoBands).map Plan.outputs =
      .ok ["red_PERMANENT_nir_PERMANENT_ndvi"] := by decide +kernel
  have ran : (Compiler.run ⟨Catalog.importing [], 64⟩ 1 twoBands
      (.new (.sequential 1))).toOption.map (fun run => (argumentsAt run.calls [] twoBands).inputs) =
      some ["red@PERMANENT", "nir@PERMANENT"] := by decide +kernel
  obtain ⟨plan, compiles, outputs⟩ := Outcome.map_eq_ok.mp compiled
  obtain ⟨final, alsoDone, inputs⟩ := Option.map_eq_some_iff.mp ran
  obtain ⟨run, done, commands, lists⟩ := compile_lists [] 64 (.sequential 1) built compiles
  obtain rfl : final = run :=
    Except.ok.inj ((Outcome.toOption_eq_some.mp alsoDone).symm.trans done)
  have joins : (argumentsAt final.calls [] twoBands).Joins Process.Ndvi.emit "inputs"
      (argumentsAt final.calls [] twoBands).inputs := .bands rfl
  obtain ⟨call, member, command, value, -, single, given, rfl, -, reads, plain⟩ :=
    lists [] twoBands _ rfl index_resolves _ _ joins
  rw [inputs] at given reads plain
  refine ⟨built, commaless, plan, compiles, outputs, command, ?_, given, ?_, ?_⟩
  · rw [commands]
    exact List.mem_flatMap.mpr ⟨call, member, single ▸ List.mem_cons_self⟩
  · exact (reads _ (by simp)).mpr (plain commaless _ (by simp))
  · exact (reads _ (by simp)).mpr (plain commaless _ (by simp))

/-- A layer with a comma in its name. -/
def brokenBand : Node := indexed "nc.PERMANENT.strds.a,b" "nc.PERMANENT.strds.c"

/-- The index reads the layer, but its command reads two halves of the name. -/
theorem brokenBand_misread : brokenBand.Built ∧ brokenBand.process.text = Process.Ndvi.name ∧
    (∃ run, Compiler.run ⟨Catalog.importing [], 64⟩ 1 brokenBand (.new (.sequential 1)) =
        .ok run ∧
      (argumentsAt run.calls [] brokenBand).inputs = ["a,b@PERMANENT", "c@PERMANENT"]) ∧
    ∃ plan command, compile ⟨Catalog.importing [], 64⟩ (.sequential 1) brokenBand = .ok plan ∧
      plan.commands.getLast? = some command ∧ command.id = "ndvi_3" ∧
      command.input? "inputs" = some "a,b@PERMANENT,c@PERMANENT" ∧
      Text.split ',' "a,b@PERMANENT,c@PERMANENT".toList =
        ["a", "b@PERMANENT", "c@PERMANENT"].map String.toList ∧
      command.reads "a,b@PERMANENT" = false := by
  have ran : (Compiler.run ⟨Catalog.importing [], 64⟩ 1 brokenBand
      (.new (.sequential 1))).toOption.map (fun run => (argumentsAt run.calls [] brokenBand).inputs) =
      some ["a,b@PERMANENT", "c@PERMANENT"] := by decide +kernel
  have compiled : (compile ⟨Catalog.importing [], 64⟩ (.sequential 1) brokenBand).map
      (·.commands.getLast?) = .ok (some (
        Command.new "ndvi_3" "t.rast.mapcalc"
          |>.withInput "inputs" "a,b@PERMANENT,c@PERMANENT"
          |>.withInput "expression" (Process.Ndvi.expression "a,b_PERMANENT_c_PERMANENT_ndvi"
            "a,b@PERMANENT" "c@PERMANENT")
          |>.withInput "basename" "ndvi"
          |>.withOutput "output" "a,b_PERMANENT_c_PERMANENT_ndvi")) := by decide +kernel
  obtain ⟨run, done, inputs⟩ := Option.map_eq_some_iff.mp ran
  obtain ⟨plan, compiles, last⟩ := Outcome.map_eq_ok.mp compiled
  exact ⟨indexed_built _ _, by decide +kernel, ⟨run, Outcome.toOption_eq_some.mp done, inputs⟩,
    plan, _, compiles, last, rfl, rfl, by decide +kernel, by decide +kernel⟩

end Compiler

end GeoChain
