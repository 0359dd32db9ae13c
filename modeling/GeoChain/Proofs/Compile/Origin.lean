import GeoChain.Proofs.Catalog.Resolved
import GeoChain.Proofs.Compile.Agreement

/-!
# Where the datasets of a plan come from

A chain of commands never uses a dataset that it did not account for. Every dataset that a node
receives is written by a command that stands before the commands of the node, or is loaded by an
earlier `get_data`, even though some processes pass datasets on and make none. The same holds of the
outputs of the plan.
-/

namespace GeoChain

/-- The call of a `get_data` whose reference is to the dataset. -/
def Call.Loads (catalog : Catalog) (dataset : String) (call : Call) : Prop :=
  catalog.resolve call.arguments.process.text = .ok Process.GetData.emit ∧
    ∃ text reference, call.arguments.get? "data_id" = some (.literal (.string text)) ∧
      Reference.read text = .ok reference ∧ reference.dataset = dataset

/-- Some command of the calls writes the dataset, or is the step that loads it. -/
def Given (catalog : Catalog) (calls : List Call) (dataset : String) : Prop :=
  ∃ call ∈ calls, ∃ command ∈ call.product.commands,
    (∃ output ∈ command.outputs, output.value = dataset) ∨ call.Loads catalog dataset

/-- Whatever the calls made is given by them. -/
def Accounted (catalog : Catalog) (calls : List Call) : Prop :=
  ∀ call ∈ calls, ∀ dataset ∈ call.product.datasets, Given catalog calls dataset

/-- The commands of a statistics: the polygons are imported before the region is aligned to them and
the raster is masked with them. -/
def ImportsFirst (commands : List Command) : Prop :=
  ∃ importing region mask statistics regions,
    commands = [importing, region, mask, statistics] ∧
    importing.module = "v.import" ∧ importing.output? "output" = some regions ∧
    region.module = "g.region" ∧ region.input? "vector" = some regions ∧
    mask.module = "r.mask" ∧ mask.input? "vector" = some regions

variable {catalog : Catalog} {calls : List Call} {dataset : String}

theorem Given.append (given : Given catalog calls dataset) (later : List Call) :
    Given catalog (calls ++ later) dataset := by
  obtain ⟨call, member, rest⟩ := given
  exact ⟨call, List.mem_append_left _ member, rest⟩

namespace Process.ZonalStatistics

theorem draft_commands {arguments : Arguments} {made : Draft}
    (drafted : draft arguments = .ok made) :
    ∃ input url, made.commands = commands input url := by
  simp only [draft, Outcome.bind_eq_ok, Outcome.pure_eq, Except.ok.injEq] at drafted
  obtain ⟨input, -, url, -, rfl⟩ := drafted
  exact ⟨input, url, rfl⟩

theorem commands_importsFirst (lead input url : String) (ids : IdSource) :
    ImportsFirst (number lead (commands input url) ids) := by
  rw [commands]
  generalize Dataset.keyedStem input url = stem
  exact ⟨_, _, _, _, regions stem, rfl, rfl, rfl, rfl, rfl, rfl, rfl⟩

end Process.ZonalStatistics

namespace Compiler

variable {modules : List Module} {maxDepth depth : Nat} {run next : Run}

/-- A call is accounted for if everything before it is. -/
theorem leave_accounted {position : Position} {node : Node}
    (accounted : Accounted (Catalog.importing modules) run.calls)
    (left : carryOut ⟨Catalog.importing modules, maxDepth⟩ depth run
      (.leave position node) = .ok next) :
    Accounted (Catalog.importing modules) next.calls := by
  obtain ⟨entry, product, after, found, called, -, rfl⟩ := carryOut_leave.mp left
  intro call member dataset made
  rcases List.mem_append.mp member with early | late
  · exact (accounted call early dataset made).append _
  · rw [List.mem_singleton.mp late] at made
    rcases Catalog.import_follows found with loads | ⟨draft, follows, transforms⟩
    · rw [loads] at called
      obtain ⟨text, reference, held, read, rfl, -⟩ := Process.GetData.call_ok called
      have same : dataset = reference.dataset := List.mem_singleton.mp made
      refine ⟨_, List.mem_append_right _ List.mem_cons_self, _, List.mem_cons_self, Or.inr ?_⟩
      exact ⟨Catalog.resolve_ok.mpr ⟨entry, found, loads⟩, text, reference, held, read, same.symm⟩
    · obtain ⟨drafted, isDraft, rfl, -⟩ := follows.made called
      -- A dataset that is passed on was made before; any other one the call writes itself.
      rcases (transforms _ _ _ isDraft).sourced dataset made with received | written
      · obtain ⟨earlier, among, source⟩ := made_of_received received
        exact (accounted earlier among dataset source).append _
      · obtain ⟨command, listed, output, writes, value⟩ := written
        obtain ⟨id, numbered⟩ := number_of_mem drafted.lead listed run.context.ids
        exact ⟨_, List.mem_append_right _ List.mem_cons_self, _, numbered,
          Or.inl ⟨output, writes, value⟩⟩

theorem through_accounted {events : List Event} {final : Run}
    (accounted : Accounted (Catalog.importing modules) run.calls)
    (done : through ⟨Catalog.importing modules, maxDepth⟩ depth events run =
      .ok final) : Accounted (Catalog.importing modules) final.calls := by
  refine through_keeps (P := fun run => Accounted _ run.calls) ?_ accounted done
  intro position node run next holds left
  exact leave_accounted holds left

theorem leave_importsFirst {position : Position} {node : Node}
    (zonal : catalog.resolve node.process.text = .ok Process.ZonalStatistics.emit)
    (left : carryOut ⟨catalog, maxDepth⟩ depth run (.leave position node) = .ok next) :
    ∃ call, next.calls = run.calls ++ [call] ∧ ImportsFirst call.product.commands := by
  obtain ⟨entry, product, after, found, called, -, rfl⟩ := carryOut_leave.mp left
  obtain ⟨other, same, emits⟩ := Catalog.resolve_ok.mp zonal
  cases found.symm.trans same
  rw [emits] at called
  obtain ⟨drafted, isDraft, rfl, -⟩ := Process.ZonalStatistics.emit_follows.made called
  obtain ⟨input, url, same⟩ := Process.ZonalStatistics.draft_commands isDraft
  refine ⟨_, rfl, ?_⟩
  rw [Draft.product, same]
  exact Process.ZonalStatistics.commands_importsFirst _ input url _

/-- Every node of a graph that compiles is called once everything that it receives is given, by the
commands before its own; and what the whole graph makes is given by some command. The regions of a
statistics are imported before they are read. -/
theorem compile_gives_before_use (modules : List Module) (maxDepth : Nat) (ids : IdSource)
    {graph : Node} (built : graph.Built) {plan : Plan}
    (compiled : compile ⟨Catalog.importing modules, maxDepth⟩ ids graph =
      .ok plan) :
    ∃ run, Compiler.run ⟨Catalog.importing modules, maxDepth⟩ 1 graph
        (.new ids) = .ok run ∧
      (∀ position node, graph.at? position = some node → ∃ before call after,
        run.calls = before ++ call :: after ∧
        plan.commands = commandsOf before ++ (call.product.commands ++ commandsOf after) ∧
        call.position = position ∧
        call.arguments = ⟨node.process, valuesAt before position node.arguments⟩ ∧
        (∀ name datasets, (name, .data datasets) ∈ call.arguments.values →
          ∀ dataset ∈ datasets,
            Given (Catalog.importing modules) before dataset) ∧
        ((Catalog.importing modules).resolve node.process.text =
          .ok Process.ZonalStatistics.emit → ImportsFirst call.product.commands)) ∧
      ∀ dataset ∈ plan.outputs,
        Given (Catalog.importing modules) run.calls dataset := by
  have ordered := built.ordered
  obtain ⟨final, done, -, outputs, commands⟩ := (compile_ok ordered).mp compiled
  have empty : Accounted (Catalog.importing modules) [] := by
    intro call member
    cases member
  refine ⟨final, done, ?_, ?_⟩
  · intro position node found
    obtain ⟨early, middle, next, late, -, before, left, after⟩ := call_at ordered done found
    have accounted := through_accounted empty before
    obtain ⟨entry, product, context, -, -, -, rfl⟩ := carryOut_leave.mp left
    obtain ⟨later, grown, -⟩ := through_calls after
    rw [List.append_assoc, List.singleton_append] at grown
    refine ⟨middle.calls, _, later, grown, ?_, rfl, rfl, ?_, ?_⟩
    · rw [commands, grown, commandsOf_append]
      rfl
    · intro name datasets valued dataset inside
      have received := Arguments.mem_received.mpr ⟨name, datasets, valued, inside⟩
      obtain ⟨call, among, made⟩ := made_of_received received
      exact accounted call among dataset made
    · intro zonal
      obtain ⟨call, added, imports⟩ := leave_importsFirst zonal left
      have same := List.append_cancel_left added
      exact (List.singleton_inj.mp same) ▸ imports
  · intro dataset listed
    rw [outputs] at listed
    obtain ⟨call, among, made⟩ := mem_datasetsAt listed
    exact through_accounted empty done call among dataset made

def seriesLoad : Node :=
  (Node.new (.sanitize Process.GetData.name)).withArgument "data_id"
    (.literal (.string "nc_spm.landsat.strds.lsat5"))

def seriesMinimum : Node :=
  (Node.new (.sanitize Process.MinTime.name)).withArgument "imagery" (.node seriesLoad)

theorem seriesLoad_built : seriesLoad.Built := .withLiteral (.new _) _ _

theorem seriesMinimum_built : seriesMinimum.Built := .withNode (.new _) _ seriesLoad_built

def seriesPlan : Plan := ⟨"nc_spm", ["lsat5_landsat_min_time"], [
  Command.new "get_data_1" "t.info" |>.withInput "input" "lsat5@landsat",
  Command.new "min_time_2" "t.rast.series"
    |>.withInput "input" "lsat5@landsat"
    |>.withInput "method" "minimum"
    |>.withOutput "output" "lsat5_landsat_min_time"]⟩

theorem seriesMinimum_compiles : compile ⟨Catalog.builtin, 64⟩ (.sequential 1) seriesMinimum =
    .ok seriesPlan := rfl

theorem seriesMinimum_gives : seriesMinimum.Built ∧
    compile ⟨Catalog.importing [], 64⟩ (.sequential 1) seriesMinimum =
      .ok seriesPlan ∧
    ∃ run, Compiler.run ⟨Catalog.importing [], 64⟩ 1 seriesMinimum
        (.new (.sequential 1)) = .ok run ∧
      Given (Catalog.importing []) run.calls "lsat5_landsat_min_time" := by
  obtain ⟨run, done, -, outputs⟩ := compile_gives_before_use [] 64 (.sequential 1)
    seriesMinimum_built seriesMinimum_compiles
  exact ⟨seriesMinimum_built, seriesMinimum_compiles, run, done, outputs _ List.mem_cons_self⟩

end Compiler

end GeoChain
