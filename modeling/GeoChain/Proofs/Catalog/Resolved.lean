import GeoChain.Proofs.Process.Draft

/-!
# What a catalog resolves to

Looking up finds an entry that was registered. After modules were imported into the built-in catalog
it is the entry of a built-in process or of a module, so every process but `get_data` works on the
data that it receives. In the built-in catalog no process runs without data.
-/

namespace GeoChain

namespace ModuleRun

/-- What a call of a module makes, when the id of its step is known. -/
def draft (run : ModuleRun) (arguments : Arguments) (stepId : String) :
    Except CompileError Draft :=
  let process := arguments.process.text
  let command : Command := ⟨"", run.module, inputs arguments.values, [], none⟩
  let datasets := received arguments.values
  if run.outputs.isEmpty then
    if datasets.isEmpty then .error (arguments.failed (.nothingDeclared run.module))
    else .ok ⟨process, none, datasets, [command]⟩
  else
    let base := base stepId process datasets
    let made := run.outputs.map fun output => (output, run.outputDataset base output)
    .ok ⟨process, none, made.map (·.2),
      [{ command with outputs := made.map fun (output, dataset) => ⟨output, dataset, none⟩ }]⟩

theorem emit_follows (run : ModuleRun) : run.emit.Follows run.draft := by
  intro arguments context
  rw [emit, draft]
  by_cases silent : run.outputs.isEmpty
  · by_cases deprived : (received arguments.values).isEmpty
    · simp only [silent, deprived, if_true]
      exact ⟨context.advance, rfl, rfl⟩
    · simp only [silent, deprived, if_true, Bool.false_eq_true, if_false]
      rfl
  · simp only [silent, Bool.false_eq_true, if_false]
    rfl

/-- The draft of a call that succeeds: one command with all outputs of the module. -/
def settled (run : ModuleRun) (arguments : Arguments) (stepId : String) : Draft :=
  let base := base stepId arguments.process.text (received arguments.values)
  ⟨arguments.process.text, none,
    if run.outputs = [] then received arguments.values
    else run.outputs.map (run.outputDataset base),
    [⟨"", run.module, inputs arguments.values,
      run.outputs.map fun output => ⟨output, run.outputDataset base output, none⟩, none⟩]⟩

variable {run : ModuleRun} {arguments : Arguments} {stepId : String} {made : Draft}

/-- A call needs outputs to name or data to pass on, and nothing else. -/
theorem draft_eq (run : ModuleRun) (arguments : Arguments) (stepId : String) :
    run.draft arguments stepId =
      if run.outputs = [] ∧ received arguments.values = [] then
        .error (arguments.failed (.nothingDeclared run.module))
      else .ok (run.settled arguments stepId) := by
  rw [draft, settled]
  by_cases silent : run.outputs = []
  · by_cases deprived : received arguments.values = []
    · simp [silent, deprived]
    · simp [silent, deprived]
  · simp [silent, Function.comp_def]

theorem settled_of_draft (drafted : run.draft arguments stepId = .ok made) :
    made = run.settled arguments stepId := by
  rw [draft_eq] at drafted
  split at drafted
  · cases drafted
  · exact (Except.ok.inj drafted).symm

theorem draft_transforms (drafted : run.draft arguments stepId = .ok made) :
    made.Transforms arguments := by
  obtain rfl := settled_of_draft drafted
  refine ⟨rfl, fun dataset member => ?_⟩
  rw [settled] at member
  dsimp only at member
  split at member
  · exact Or.inl member
  · obtain ⟨output, listed, rfl⟩ := List.mem_map.mp member
    exact Or.inr ⟨_, List.mem_cons_self, ⟨output, _, none⟩,
      List.mem_map.mpr ⟨output, listed, rfl⟩, rfl⟩

end ModuleRun

/-- The ways to run a module: with all its outputs, or with one of several. -/
def Module.Runs (module : Module) (run : ModuleRun) : Prop :=
  run = module.run ∨
    module.hasSeveralOutputs ∧ ∃ output ∈ module.returns, run = module.runFor output

namespace Catalog

/-- The built-in catalog after modules were imported. -/
abbrev importing (modules : List Module) : Catalog := (builtin.importModules modules).2

variable {catalog : Catalog} {entry : Entry}

theorem mem_place {new : Entry} {entries : List Entry} (member : entry ∈ place new entries) :
    entry = new ∨ entry ∈ entries := by
  induction entries with
  | nil => simpa [place] using member
  | cons other rest ih =>
    rw [place] at member
    split at member
    · rcases List.mem_cons.mp member with here | later
      · exact Or.inl here
      · exact Or.inr (List.mem_cons_of_mem _ later)
    · rcases List.mem_cons.mp member with here | later
      · exact Or.inr (here ▸ List.mem_cons_self)
      · rcases ih later with here | later
        · exact Or.inl here
        · exact Or.inr (List.mem_cons_of_mem _ later)

theorem mem_registerAll {entries : List Entry}
    (member : entry ∈ (catalog.registerAll entries).entries) :
    entry ∈ entries ∨ entry ∈ catalog.entries := by
  induction entries generalizing catalog with
  | nil => exact Or.inr member
  | cons first rest ih =>
    rcases ih member with late | early
    · exact Or.inl (List.mem_cons_of_mem _ late)
    · rcases mem_place early with here | earlier
      · exact Or.inl (here ▸ List.mem_cons_self)
      · exact Or.inr earlier

theorem mem_of_find? {process : String} (found : catalog.find? process = some entry) :
    entry ∈ catalog.entries :=
  List.mem_of_find?_eq_some found

theorem id_of_find? {process : String} (found : catalog.find? process = some entry) :
    entry.id.text = process := by
  simpa using List.find?_some found

theorem resolve_ok {process : String} {emitter : Emitter} :
    catalog.resolve process = .ok emitter ↔
      ∃ entry, catalog.find? process = some entry ∧ entry.emitter = emitter := by
  rw [resolve]
  cases catalog.find? process with
  | none => simp
  | some entry => simp

theorem mem_builtin (member : entry ∈ builtin.entries) : entry ∈ Process.builtins := by
  rcases mem_registerAll member with listed | empty
  · exact listed
  · cases empty

theorem mem_moduleEntries {module : Module} : entry ∈ moduleEntries module ↔
    entry = ⟨module.described, module.run.emit⟩ ∨ module.hasSeveralOutputs ∧
      ∃ output ∈ module.returns, entry = ⟨module.describedFor output, (module.runFor output).emit⟩ := by
  rw [moduleEntries, List.mem_cons]
  split
  · rename_i several
    simp only [several, true_and, List.mem_map, eq_comm]
  · rename_i single
    simp [single]

/-- An entry that a module gives rise to runs the module. -/
theorem runs_of_mem_entriesOf {modules : List Module} (member : entry ∈ entriesOf modules) :
    ∃ module ∈ modules, ∃ run, module.Runs run ∧ entry.emitter = run.emit := by
  obtain ⟨module, listed, inside⟩ := List.mem_flatMap.mp member
  rcases mem_moduleEntries.mp inside with rfl | ⟨several, output, among, rfl⟩
  · exact ⟨module, listed, module.run, Or.inl rfl, rfl⟩
  · exact ⟨module, listed, module.runFor output, Or.inr ⟨several, output, among, rfl⟩, rfl⟩

theorem mem_entriesOf {modules : List Module} (member : entry ∈ entriesOf modules) :
    ∃ run : ModuleRun, entry.emitter = run.emit := by
  obtain ⟨-, -, run, -, emits⟩ := runs_of_mem_entriesOf member
  exact ⟨run, emits⟩

end Catalog

theorem Process.builtins_follow {entry : Entry} (member : entry ∈ builtins) :
    ∃ draft : Arguments → Except CompileError Draft,
      entry.emitter.Follows (fun arguments _ => draft arguments) ∧
      (∀ arguments, Declines (draft arguments)) ∧
      (entry.emitter = GetData.emit ∨
        ∀ arguments made, draft arguments = .ok made → made.NeedsData arguments) := by
  obtain ⟨draft, drafts⟩ := builtins_drafted member
  exact ⟨draft, drafts.follows, drafts.declines, drafts.needsData⟩

theorem Catalog.builtin_follows {process : String} {entry : Entry}
    (found : builtin.find? process = some entry) :
    ∃ draft : Arguments → Except CompileError Draft,
      entry.emitter.Follows (fun arguments _ => draft arguments) ∧
      (∀ arguments, Declines (draft arguments)) ∧
      (entry.emitter = Process.GetData.emit ∨
        ∀ arguments made, draft arguments = .ok made → made.NeedsData arguments) :=
  Process.builtins_follow (mem_builtin (mem_of_find? found))

/-- Whatever modules are imported, every process but `get_data` works on data. -/
theorem Catalog.import_follows {modules : List Module} {process : String} {entry : Entry}
    (found : (importing modules).find? process = some entry) :
    entry.emitter = Process.GetData.emit ∨ ∃ draft, entry.emitter.Follows draft ∧
      ∀ arguments stepId made, draft arguments stepId = .ok made → made.Transforms arguments := by
  rcases mem_registerAll (mem_of_find? found) with imported | builtIn
  · obtain ⟨run, runs⟩ := mem_entriesOf imported
    exact Or.inr ⟨run.draft, runs ▸ run.emit_follows, fun _ _ _ => ModuleRun.draft_transforms⟩
  · obtain ⟨draft, follows, -, loads | needs⟩ := Process.builtins_follow (mem_builtin builtIn)
    · exact Or.inl loads
    · exact Or.inr ⟨_, follows, fun arguments _ made drafted =>
        (needs arguments made drafted).toTransforms⟩

end GeoChain
