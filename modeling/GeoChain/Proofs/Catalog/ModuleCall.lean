import GeoChain.Proofs.Catalog.Requirement
import GeoChain.Proofs.Text.ByteOrder

/-!
# Calls of modules

A call of a module fails exactly if the module has no outputs and the call no data. Otherwise it is
one command, which accounts for every argument that is not `null` and for every output. What the call
makes are the values of these outputs, or the data that it received if there are none.
-/

namespace GeoChain

namespace ModuleRun

/-- The text that stands for an argument: a text itself, another literal as compact JSON, datasets
with commas between them. -/
inductive Spells : Value → String → Prop where
  | text (text : String) : Spells (.literal (.string text)) text
  | json {value : Json} (notNull : value ≠ .null) (notText : ∀ text, value ≠ .string text) :
      Spells (.literal value) value.compact
  | data (datasets : List String) : Spells (.data datasets) (",".intercalate datasets)

theorem spells_of_inputText? {value : Value} {text : String}
    (given : inputText? value = some text) : Spells value text := by
  cases value with
  | literal value =>
    cases value with
    | null => cases given
    | string => exact Option.some.inj given ▸ .text _
    | bool | int | float | array | object =>
      obtain rfl := Option.some.inj given
      exact .json (by simp) (by simp)
  | data datasets => exact Option.some.inj given ▸ .data datasets

/-- Every argument that is not `null` becomes an input, in the order of the arguments. -/
theorem inputs_account (values : List (String × Value)) :
    List.Forall₂ (fun entry input =>
        input.param = entry.1 ∧ Spells entry.2 input.value ∧ input.imported = none)
      (values.filter fun entry => entry.2 ≠ .literal .null) (inputs values) := by
  induction values with
  | nil => exact .nil
  | cons first rest ih =>
    obtain ⟨name, value⟩ := first
    cases given : inputText? value with
    | none =>
      obtain rfl := inputText?_eq_none.mp given
      exact ih
    | some text =>
      have notNull : value ≠ .literal .null := fun null => by
        rw [inputText?_eq_none.mpr null] at given
        cases given
      have here : inputs ((name, value) :: rest) = ⟨name, text, none⟩ :: inputs rest := by
        simp [inputs, given]
      rw [here, List.filter_cons_of_pos (by simpa using notNull)]
      exact .cons ⟨rfl, spells_of_inputText? given, rfl⟩ ih

theorem inputs_increasing {values : List (String × Value)}
    (increasing : Keyed.Increasing values) :
    (inputs values).Pairwise fun one other => Text.bytes one.param < Text.bytes other.param := by
  rw [Keyed.Increasing, Keyed.names, List.pairwise_map] at increasing
  refine List.Pairwise.filterMap _ ?_ increasing
  intro entry other less input made another alsoMade
  obtain ⟨-, -, rfl⟩ := Option.map_eq_some_iff.mp made
  obtain ⟨-, -, rfl⟩ := Option.map_eq_some_iff.mp alsoMade
  exact Text.bytes_lt_iff.mpr less

theorem received_eq_nil {values : List (String × Value)} : received values = [] ↔
    ∀ name datasets, (name, .data datasets) ∈ values → datasets = [] := by
  rw [List.eq_nil_iff_forall_not_mem]
  simp only [Arguments.mem_received, List.eq_nil_iff_forall_not_mem]
  constructor
  · exact fun none name datasets member dataset inside =>
      none dataset ⟨name, datasets, member, inside⟩
  · rintro none dataset ⟨name, datasets, member, inside⟩
    exact none name datasets member dataset inside

variable {run : ModuleRun}

/-- Outputs with names of their own get datasets of their own. -/
theorem outputDataset_nodup (distinct : run.outputs.Nodup) (base : String) :
    (run.outputs.map (run.outputDataset base)).Nodup := by
  by_cases single : run.outputs.length = 1
  · obtain ⟨output, only⟩ := List.length_eq_one_iff.mp single
    rw [only]
    exact List.nodup_singleton _
  · refine distinct.map fun one other same => ?_
    rw [outputDataset, outputDataset, if_neg single, if_neg single] at same
    exact (String.append_right_inj _).mp same

/-- The command of a call, when its outputs are named after a base. -/
def command (run : ModuleRun) (values : List (String × Value)) (stepId base : String) : Command where
  id := stepId
  module := run.module
  inputs := inputs values
  outputs := run.outputs.map fun output => ⟨output, run.outputDataset base output, none⟩
  flags := none

/-- Each output of a module is an output of the command, under its own name. -/
theorem output?_command {output : String} (member : output ∈ run.outputs)
    (values : List (String × Value)) (stepId base : String) :
    (run.command values stepId base).output? output = some (run.outputDataset base output) := by
  have listed : (run.outputs.find? fun name => name = output).isSome :=
    List.find?_isSome.mpr ⟨output, member, by simp⟩
  obtain ⟨found, here⟩ := Option.isSome_iff_exists.mp listed
  obtain rfl : found = output := by simpa using List.find?_some here
  simp only [Command.output?, command, List.find?_map, Function.comp_def, here, Option.map_some]

/-- What a call does, in whatever context it is made. -/
theorem execute_emit (run : ModuleRun) (arguments : Arguments) (context : Context) :
    (run.emit arguments).execute context =
      let stepId := context.stepId arguments.process.text
      let base := base stepId arguments.process.text (received arguments.values)
      if run.outputs = [] then
        if received arguments.values = [] then
          (.error (.failed (arguments.failed (.nothingDeclared run.module))), context.advance)
        else (.ok ⟨received arguments.values, [run.command arguments.values stepId base]⟩,
          context.advance)
      else (.ok ⟨run.outputs.map (run.outputDataset base),
        [run.command arguments.values stepId base]⟩, context.advance) := by
  rw [emit]
  by_cases silent : run.outputs = []
  · by_cases deprived : received arguments.values = []
    · simp only [silent, deprived, List.isEmpty_nil, if_true]
      rfl
    · have supplied : ¬ (received arguments.values).isEmpty := mt List.isEmpty_iff.mp deprived
      simp only [silent, deprived, supplied, List.isEmpty_nil, if_true, if_false, command]
      rfl
  · have speaks : ¬ run.outputs.isEmpty := mt List.isEmpty_iff.mp silent
    simp only [silent, speaks, Bool.false_eq_true, if_false, command, List.map_map]
    rfl

/-- With outputs and data, the outputs are named after the data and not after the step. -/
theorem execute_emit_of_data {arguments : Arguments} (speaks : run.outputs ≠ [])
    (supplied : received arguments.values ≠ []) (context : Context) :
    (run.emit arguments).execute context =
      let base := Dataset.joined (received arguments.values) arguments.process.text
      (.ok ⟨run.outputs.map (run.outputDataset base),
        [run.command arguments.values (context.stepId arguments.process.text) base]⟩,
        context.advance) := by
  rw [execute_emit]
  dsimp only
  rw [if_neg speaks, base_of_data supplied]

/-- A call of a module fails exactly if the module has no outputs and the data arguments have no
datasets. Otherwise it is one command of that module: with an input for each argument that is not
`null`, in the order of the bytes of their names, and with the outputs of the module in their order.
Without outputs the call makes what it received. With outputs it makes their values, each of them
once if the outputs have names of their own; they are named after the step only if nothing was
received. -/
theorem emit_accounts (run : ModuleRun) {arguments : Arguments}
    (increasing : Keyed.Increasing arguments.values) (context : Context) :
    ((∃ halt after, (run.emit arguments).execute context = (.error halt, after)) ↔
      run.outputs = [] ∧
        ∀ name datasets, (name, .data datasets) ∈ arguments.values → datasets = []) ∧
    ∀ product after, (run.emit arguments).execute context = (.ok product, after) →
      ∃ command, product.commands = [command] ∧ command.module = run.module ∧
        command.id = context.stepId arguments.process.text ∧
        List.Forall₂ (fun entry input =>
            input.param = entry.1 ∧ Spells entry.2 input.value ∧ input.imported = none)
          (arguments.values.filter fun entry => entry.2 ≠ .literal .null) command.inputs ∧
        (command.inputs.Pairwise fun one other =>
          Text.bytes one.param < Text.bytes other.param) ∧
        command.outputs.map (·.param) = run.outputs ∧
        (run.outputs = [] → product.datasets = received arguments.values) ∧
        (run.outputs ≠ [] → product.datasets = command.outputs.map (·.value) ∧
          (run.outputs.Nodup → product.datasets.Nodup) ∧
          (received arguments.values = [] →
            product.datasets = run.outputs.map (run.outputDataset command.id)) ∧
          (received arguments.values ≠ [] → product.datasets = run.outputs.map
            (run.outputDataset (Dataset.joined (received arguments.values)
              arguments.process.text)))) := by
  rw [execute_emit, ← received_eq_nil]
  dsimp only
  generalize stepped : context.stepId arguments.process.text = stepId
  generalize based : base stepId arguments.process.text (received arguments.values) = named
  have params : (run.command arguments.values stepId named).outputs.map (·.param) =
      run.outputs := by simp [command, Function.comp_def]
  have values : (run.command arguments.values stepId named).outputs.map (·.value) =
      run.outputs.map (run.outputDataset named) := by simp [command, Function.comp_def]
  have account := inputs_account arguments.values
  have sorted := inputs_increasing increasing
  by_cases silent : run.outputs = []
  · rw [if_pos silent]
    by_cases deprived : received arguments.values = []
    · rw [if_pos deprived]
      refine ⟨iff_of_true ⟨_, _, rfl⟩ ⟨silent, deprived⟩, ?_⟩
      rintro product after ⟨⟩
    · rw [if_neg deprived]
      refine ⟨iff_of_false (by simp) (by simp [deprived]), ?_⟩
      rintro product after ⟨⟩
      exact ⟨_, rfl, rfl, rfl, account, sorted, params, fun _ => rfl,
        fun speaks => absurd silent speaks⟩
  · rw [if_neg silent]
    refine ⟨iff_of_false (by simp) (by simp [silent]), ?_⟩
    rintro product after ⟨⟩
    refine ⟨_, rfl, rfl, rfl, account, sorted, params, fun quiet => absurd quiet silent,
      fun _ => ⟨values.symm, fun distinct => outputDataset_nodup distinct named, ?_, ?_⟩⟩
    · intro deprived
      rw [deprived, base_of_none] at based
      rw [← based]
      rfl
    · intro supplied
      rw [← based, base_of_data supplied]

end ModuleRun

/-- A module with two outputs. -/
def slopeAspect : Module :=
  (Module.new "r.slope.aspect" "").withReturn ⟨"slope", "", false, .empty⟩
    |>.withReturn ⟨"aspect", "", false, .empty⟩

/-- A call on a layer, with an absent format and two literals. -/
def slopeCall : Arguments := ⟨slopeAspect.process, [("elevation", .data ["elevation@PERMANENT"]),
  ("format", .literal .null), ("precision", .literal (.string "FCELL")),
  ("zscale", .literal (.int 2))]⟩

theorem slopeAspect_accounts : Keyed.Increasing slopeCall.values ∧ ∃ product after command,
    (slopeAspect.run.emit slopeCall).execute (.new (.sequential 1)) = (.ok product, after) ∧
    product.commands = [command] ∧ command.module = "r.slope.aspect" ∧
    command.inputs.length = 3 ∧ command.outputs.map (·.param) = ["slope", "aspect"] ∧
    product.datasets = ["elevation_PERMANENT_r_slope_aspect_slope",
      "elevation_PERMANENT_r_slope_aspect_aspect"] ∧ product.datasets.Nodup := by
  have increasing : Keyed.Increasing slopeCall.values :=
    show (Keyed.names slopeCall.values).Pairwise (· < ·) by decide
  obtain ⟨refuses, accounts⟩ :=
    slopeAspect.run.emit_accounts increasing (.new (.sequential 1))
  have declared : slopeAspect.run.outputs ≠ [] := by decide
  rcases called : (slopeAspect.run.emit slopeCall).execute (.new (.sequential 1))
    with ⟨halt | product, after⟩
  · exact absurd (refuses.mp ⟨halt, after, called⟩).1 declared
  · obtain ⟨command, single, runs, -, inputs, -, params, -, made⟩ := accounts product after called
    obtain ⟨-, distinct, -, named⟩ := made declared
    refine ⟨increasing, product, after, command, rfl, single, runs, ?_, params, ?_,
      distinct (by decide)⟩
    · rw [← inputs.length_eq]
      decide
    · rw [named (by decide)]
      decide

end GeoChain
