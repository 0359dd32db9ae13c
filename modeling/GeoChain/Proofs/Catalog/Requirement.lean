import GeoChain.Proofs.Compile.Absent
import GeoChain.Proofs.Compile.ModuleNaming

/-!
# Required parameters of modules

The descriptions of a module tell clients which of its parameters are required, but calls of the
module do not check them. A call fails exactly if the module has no output to name and the call no
data to pass on. Otherwise it gives one command, with an input for each argument that is not `null`,
whether a required one is among them or not.
-/

namespace GeoChain

namespace ModuleRun

variable {run : ModuleRun}

theorem inputText?_eq_none {value : Value} : inputText? value = none ↔ value = .literal .null := by
  constructor
  · intro none
    cases value with
    | literal value =>
      cases value with
      | null => rfl
      | bool | int | float | string | array | object => cases none
    | data datasets => cases none
  · rintro rfl
    rfl

/-- The names under which a module is given something. -/
theorem mem_inputs {values : List (String × Value)} {name : String} :
    name ∈ (inputs values).map (·.param) ↔
      ∃ value, (name, value) ∈ values ∧ value ≠ .literal .null := by
  simp only [inputs, List.mem_map, List.mem_filterMap, Option.map_eq_some_iff]
  constructor
  · rintro ⟨_, ⟨⟨_, value⟩, member, text, given, rfl⟩, rfl⟩
    refine ⟨value, member, fun null => ?_⟩
    rw [inputText?_eq_none.mpr null] at given
    cases given
  · rintro ⟨value, member, notNull⟩
    obtain ⟨text, given⟩ := Option.ne_none_iff_exists'.mp (mt inputText?_eq_none.mp notNull)
    exact ⟨⟨name, text, none⟩, ⟨(name, value), member, text, given, rfl⟩, rfl⟩

/-- With outputs or data, a call is drafted as one command. -/
theorem draft_ok (arguments : Arguments)
    (something : run.outputs ≠ [] ∨ received arguments.values ≠ []) (stepId : String) :
    ∃ made command, run.draft arguments stepId = .ok made ∧ made.commands = [command] ∧
      command.module = run.module ∧ command.inputs = inputs arguments.values := by
  have notBoth : ¬ (run.outputs = [] ∧ received arguments.values = []) :=
    fun both => something.elim (absurd both.1) (absurd both.2)
  exact ⟨_, _, (run.draft_eq arguments stepId).trans (if_neg notBoth), rfl, rfl, rfl⟩

theorem draft_deprived (arguments : Arguments) (silent : run.outputs = [])
    (deprived : received arguments.values = []) (stepId : String) :
    run.draft arguments stepId = .error (arguments.failed (.nothingDeclared run.module)) := by
  rw [draft_eq, if_pos ⟨silent, deprived⟩]

end ModuleRun

namespace Catalog

variable {module : Module} {entry : Entry}

/-- Every entry of a module runs it, under a description of all its parameters. -/
theorem moduleEntries_run (listed : entry ∈ moduleEntries module) :
    ∃ run : ModuleRun, entry.emitter = run.emit ∧ run.module = module.id ∧
      (run.outputs = [] ↔ module.returns = []) ∧
      entry.description.parameters = module.parameters.map ModuleParameter.described := by
  rcases mem_moduleEntries.mp listed with rfl | ⟨-, output, member, rfl⟩
  · exact ⟨module.run, rfl, rfl, List.map_eq_nil_iff, rfl⟩
  · have some : module.returns ≠ [] := List.ne_nil_of_mem member
    exact ⟨module.runFor output, rfl, rfl, iff_of_false (List.cons_ne_nil _ _) some, rfl⟩

/-- The description of a module requires the parameters that are not optional, but a call does not:
without outputs and data it fails for that reason, and otherwise it gives a command with an input
for each argument that is not `null`, whatever is missing. -/
theorem moduleEntries_call (listed : entry ∈ moduleEntries module)
    (values : List (String × Value)) (context : Context) :
    entry.description.required =
      (module.parameters.filter fun parameter => !parameter.isOptional).map (·.name) ∧
    ((module.returns ≠ [] ∨ ModuleRun.received values ≠ []) → ∃ product after command,
      (entry.emitter ⟨entry.id, values⟩).execute context = (.ok product, after) ∧
      product.commands = [command] ∧ command.module = module.id ∧
      ∀ name, name ∈ command.inputs.map (·.param) ↔
        ∃ value, (name, value) ∈ values ∧ value ≠ .literal .null) ∧
    (module.returns = [] ∧ ModuleRun.received values = [] → ∃ after,
      (entry.emitter ⟨entry.id, values⟩).execute context =
        (.error (.failed (.failed entry.id.text (.nothingDeclared module.id) none)), after)) := by
  obtain ⟨run, emits, named, outputs, parameters⟩ := moduleEntries_run listed
  have follows : entry.emitter.Follows run.draft := emits ▸ run.emit_follows
  refine ⟨?_, ?_, ?_⟩
  · rw [Description.required, parameters, List.filter_map, List.map_map]
    rfl
  · intro something
    have speaks : run.outputs ≠ [] ∨ ModuleRun.received values ≠ [] :=
      something.imp_left (mt outputs.mp)
    obtain ⟨made, command, drafted, single, runs, given⟩ :=
      run.draft_ok ⟨entry.id, values⟩ speaks (context.stepId entry.id.text)
    refine ⟨_, _, { command with id := context.ids.stepId made.lead },
      follows.does context drafted, ?_, runs.trans named, fun name => ?_⟩
    · rw [Draft.product, single]
      rfl
    · rw [given]
      exact ModuleRun.mem_inputs
  · rintro ⟨silent, deprived⟩
    have drafted := run.draft_deprived ⟨entry.id, values⟩ (outputs.mpr silent) deprived
      (context.stepId entry.id.text)
    have done := follows ⟨entry.id, values⟩ context
    dsimp only at done
    rw [drafted, named] at done
    obtain ⟨after, called, -⟩ := done
    exact ⟨after, called⟩

/-- A module with two required parameters. -/
def sizedNeighbors : Module :=
  Compiler.neighbors.withParameter ⟨"input", "", false, .empty⟩
    |>.withParameter ⟨"size", "", false, .empty⟩

def sizedEntry : Entry := ⟨sizedNeighbors.described, sizedNeighbors.run.emit⟩

theorem sizedEntry_listed : sizedEntry ∈ moduleEntries sizedNeighbors := List.mem_cons_self

def onlyInput : List (String × Value) := [("input", .data ["elevation@PERMANENT"])]

theorem sizedEntry_called : sizedEntry ∈ moduleEntries sizedNeighbors ∧
    sizedEntry.description.required = ["input", "size"] ∧ ∃ product after command,
      (sizedEntry.emitter ⟨sizedEntry.id, onlyInput⟩).execute (.new (.sequential 1)) =
        (.ok product, after) ∧
      product.commands = [command] ∧ command.module = "r.neighbors" ∧
      "size" ∉ command.inputs.map (·.param) := by
  obtain ⟨required, calls, -⟩ :=
    moduleEntries_call sizedEntry_listed onlyInput (.new (.sequential 1))
  have declared : sizedNeighbors.returns ≠ [] := by decide
  obtain ⟨product, after, command, called, single, runs, given⟩ := calls (Or.inl declared)
  refine ⟨sizedEntry_listed, required, product, after, command, called, single, runs, ?_⟩
  intro member
  obtain ⟨value, inside, -⟩ := (given "size").mp member
  exact absurd (Prod.mk.inj (List.mem_singleton.mp inside)).1 (by decide)

end Catalog

namespace Compiler

/-- A call of the module on a stored layer, without its size. -/
def sizeless : Node :=
  (Node.new Catalog.sizedNeighbors.process).withArgument "input"
    (.node (storedData "nc.PERMANENT.raster.elevation"))

/-- A required parameter may be missing: the graph compiles, and its command has no size. -/
theorem sizeless_compiles :
    ((Catalog.importing [Catalog.sizedNeighbors]).describe? "r_neighbors").map
      Description.required = some ["input", "size"] ∧
    sizeless.Built ∧ sizeless.process.text = "r_neighbors" ∧ sizeless.argument? "size" = none ∧
    compile ⟨Catalog.importing [Catalog.sizedNeighbors], 64⟩ (.sequential 1) sizeless =
      .ok ⟨"nc", ["elevation_PERMANENT_r_neighbors"], [
        Command.new "get_data_1" "g.region" |>.withFlags "p"
          |>.withInput "raster" "elevation@PERMANENT",
        Command.new "r_neighbors_2" "r.neighbors"
          |>.withInput "input" "elevation@PERMANENT"
          |>.withOutput "output" "elevation_PERMANENT_r_neighbors"]⟩ :=
  ⟨by decide +kernel, .withNode (.new _) _ (storedData_built _), by decide +kernel,
    by decide +kernel, by decide +kernel⟩

end Compiler

end GeoChain
