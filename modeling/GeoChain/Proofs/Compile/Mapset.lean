import GeoChain.Proofs.Compile.Naming

/-!
# Mapsets in names

The name of a stored dataset has an `@` before its mapset, and whatever is named after the dataset
has one fewer. So names of derived datasets are free of them, and are taken as they are by the next
process, if every stored dataset has just the one. A layer or a mapset with an `@` of its own is a
valid part of a reference; then some are left over in derived names, as many as are counted here.
-/

namespace GeoChain

namespace Dataset

/-- How many `@` a name has. -/
def atCount (name : String) : Nat := name.toList.count '@'

/-- How many `@` are left over of names once each of them has lost its first one. -/
def surplus (names : List String) : Nat := (names.map fun name => atCount name - 1).sum

theorem atCount_eq_zero {name : String} : atCount name = 0 ↔ '@' ∉ name.toList :=
  List.count_eq_zero

@[simp] theorem atCount_append (first rest : String) :
    atCount (first ++ rest) = atCount first + atCount rest := by
  rw [atCount, String.toList_append, List.count_append]
  rfl

@[simp] theorem atCount_underscore : atCount "_" = 0 := rfl

@[simp] theorem atCount_literalKey (literal : String) : atCount (literalKey literal) = 0 :=
  atCount_eq_zero.mpr (at_not_mem_literalKey literal)

@[simp] theorem atCount_stem (dataset : String) : atCount (stem dataset) = atCount dataset - 1 := by
  rw [atCount, atCount, stem, String.toList_ofList, stemChars]
  split
  · rename_i layer mapset found
    have apart : ('_' : Char) ≠ '@' := by decide
    rw [Text.splitFirst?_eq_some found, List.count_append, List.count_append,
      List.count_cons_of_ne apart, List.count_cons_self]
    omega
  · rename_i missing
    rw [List.count_eq_zero.mpr (Text.splitFirst?_eq_none.mp missing)]

/-- Exactly the names without `@` are taken as they are. -/
theorem stem_eq_self {name : String} : stem name = name ↔ atCount name = 0 := by
  constructor
  · intro same
    have fewer := atCount_stem name
    rw [same] at fewer
    omega
  · intro none
    have missing := Text.splitFirst?_eq_none.mpr (atCount_eq_zero.mp none)
    rw [stem, stemChars, missing]
    exact String.ofList_toList

theorem atCount_joined (datasets : List String) (process : String) :
    atCount (joined datasets process) = surplus datasets + atCount process := by
  induction datasets with
  | nil => simp [joined, surplus]
  | cons dataset rest ih =>
    simp only [joined, atCount_append, atCount_stem, atCount_underscore, ih, surplus,
      List.map_cons, List.sum_cons]
    omega

theorem surplus_eq_zero {names : List String} (few : ∀ name ∈ names, atCount name ≤ 1) :
    surplus names = 0 := by
  refine List.sum_eq_zero fun left member => ?_
  obtain ⟨name, among, rfl⟩ := List.mem_map.mp member
  exact Nat.sub_eq_zero_of_le (few name among)

end Dataset

open Dataset

theorem Reference.atCount_dataset_eq_one {reference : Reference} :
    atCount reference.dataset = 1 ↔
      '@' ∉ reference.layer.toList ∧ '@' ∉ reference.mapset.toList := by
  have mark : atCount "@" = 1 := rfl
  rw [dataset, atCount_append, atCount_append, mark, ← atCount_eq_zero, ← atCount_eq_zero]
  omega

theorem Process.atCount_maker : ∀ process ∈ makers, atCount process = 0 := by
  decide

/-- What a stage makes has the `@` that are left over of what it reads, but a key costs one. -/
theorem Stage.Valid.atCount_dataset {stage : Stage} (valid : stage.Valid) (inputs : List String) :
    atCount (stage.dataset inputs) =
      surplus inputs - if stage.process ∈ Process.keyed then 1 else 0 := by
  have maker := Process.atCount_maker _ valid.maker
  rw [dataset]
  split
  · rename_i noKey
    have unkeyed : stage.process ∉ Process.keyed := fun keyed => by
      have some := valid.keyed.mpr keyed
      simp [noKey] at some
    simp [atCount_joined, maker, unkeyed]
  · rename_i key isKey
    have keyed : stage.process ∈ Process.keyed := valid.keyed.mp (by simp [isKey])
    obtain ⟨literal, rfl⟩ := valid.digest key isKey
    simp [derived, atCount_joined, maker, keyed]

/-- If stored datasets have one `@`, no dataset has more. -/
theorem Node.Named.atCount_le {graph : Node}
    (clear : ∀ dataset ∈ graph.loaded, atCount dataset = 1) {dataset : String}
    (named : graph.Named dataset) : atCount dataset ≤ 1 := by
  induction named with
  | loaded member => exact Nat.le_of_eq (clear _ member)
  | made valid _ _ ih =>
    rw [valid.atCount_dataset, surplus_eq_zero ih]
    omega

/-! ### What commands write -/

/-- The commands of a call write nothing but the datasets that the call makes, and the polygons of a
statistics. -/
def Draft.Writes (made : Draft) (arguments : Arguments) : Prop :=
  ∀ command ∈ made.commands, ∀ output ∈ command.outputs, output.value ∈ made.datasets ∨
    arguments.process.text = Process.ZonalStatistics.name ∧ ∃ input url,
      arguments.inputs = [input] ∧
      output.value = Process.ZonalStatistics.regions (keyedStem input url)

namespace Process

variable {arguments : Arguments} {made : Draft}

theorem GetData.draft_writes (drafted : draft arguments = .ok made) : made.Writes arguments := by
  obtain ⟨text, reference, -, -, rfl⟩ := draft_ok.mp drafted
  intro command member output written
  rw [List.mem_singleton.mp member] at written
  cases same : reference.datatype with
  | raster | strds | vector =>
    rw [same] at written
    cases written

theorem FilterBbox.draft_writes (drafted : draft arguments = .ok made) :
    made.Writes arguments := by
  simp only [draft, Outcome.bind_eq_ok, Outcome.pure_eq, Except.ok.injEq] at drafted
  obtain ⟨datasets, -, inputs, -, rfl⟩ := drafted
  intro command member output written
  rw [List.mem_singleton.mp member] at written
  cases written

theorem RasterExporter.draft_writes (drafted : draft arguments = .ok made) :
    made.Writes arguments := by
  simp only [draft, Outcome.bind_eq_ok, Outcome.pure_eq, Except.ok.injEq] at drafted
  obtain ⟨datasets, -, rfl⟩ := drafted
  intro command member output written
  obtain ⟨dataset, among, rfl⟩ := List.mem_map.mp member
  rw [List.mem_singleton.mp written]
  exact Or.inl among

/-- A call of one command with one output writes what it makes. -/
theorem writes_single {lead dataset : String} {command : Command}
    (single : command.outputs = [⟨"output", dataset, none⟩]) :
    Draft.Writes ⟨lead, none, [dataset], [command]⟩ arguments := by
  intro other member output written
  rw [List.mem_singleton.mp member, single, List.mem_singleton] at written
  rw [written]
  exact Or.inl List.mem_cons_self

theorem FilterDaterange.draft_writes (drafted : draft arguments = .ok made) :
    made.Writes arguments := by
  simp only [draft, Outcome.bind_eq_ok, Outcome.pure_eq, Except.ok.injEq] at drafted
  obtain ⟨input, -, start, -, stop, -, rfl⟩ := drafted
  exact writes_single rfl

theorem MinTime.draft_writes (drafted : draft arguments = .ok made) : made.Writes arguments := by
  simp only [draft, Outcome.bind_eq_ok, Outcome.pure_eq, Except.ok.injEq] at drafted
  obtain ⟨input, -, rfl⟩ := drafted
  exact writes_single rfl

theorem UdfReduceTime.draft_writes (drafted : draft arguments = .ok made) :
    made.Writes arguments := by
  simp only [draft, Outcome.bind_eq_ok, Outcome.pure_eq, Except.ok.injEq] at drafted
  obtain ⟨input, -, url, -, rfl⟩ := drafted
  exact writes_single rfl

theorem Ndvi.draft_writes (drafted : draft arguments = .ok made) : made.Writes arguments := by
  simp only [draft, Outcome.bind_eq_ok, Outcome.pure_eq, Except.ok.injEq] at drafted
  obtain ⟨red, -, nir, -, rfl⟩ := drafted
  exact writes_single rfl

theorem ZonalStatistics.draft_writes (named : arguments.process.text = name)
    (drafted : draft arguments = .ok made) : made.Writes arguments := by
  simp only [draft, Outcome.bind_eq_ok, Outcome.pure_eq, Except.ok.injEq] at drafted
  obtain ⟨input, main, url, -, rfl⟩ := drafted
  have inputs : arguments.inputs = [input] := by
    rw [Arguments.inputs, named, if_neg (by decide), Arguments.primarySingle_eq_ok.mp main]
    rfl
  intro command member output written
  simp only [commands, List.mem_cons, List.not_mem_nil, or_false] at member
  rcases member with rfl | rfl | rfl | rfl
  · rw [List.mem_singleton.mp written]
    exact Or.inr ⟨named, input, url, inputs, rfl⟩
  · cases written
  · cases written
  · rw [List.mem_singleton.mp written]
    exact Or.inl List.mem_cons_self

theorem Drafts.writes {entry : Entry} {draft : Arguments → Except CompileError Draft}
    (drafts : Drafts entry draft) (named : arguments.process.text = entry.id.text)
    (drafted : draft arguments = .ok made) : made.Writes arguments := by
  cases drafts with
  | getData => exact GetData.draft_writes drafted
  | filterBbox => exact FilterBbox.draft_writes drafted
  | filterDaterange => exact FilterDaterange.draft_writes drafted
  | minTime => exact MinTime.draft_writes drafted
  | ndvi => exact Ndvi.draft_writes drafted
  | rasterExporter => exact RasterExporter.draft_writes drafted
  | zonalStatistics => exact ZonalStatistics.draft_writes named drafted
  | udfReduceTime => exact UdfReduceTime.draft_writes drafted

end Process

theorem Catalog.builtin_writes (arguments : Arguments) {entry : Entry} {early late : Context}
    {product : Product} (found : builtin.find? arguments.process.text = some entry)
    (called : (entry.emitter arguments).execute early = (.ok product, late)) :
    ∀ command ∈ product.commands, ∀ output ∈ command.outputs, output.value ∈ product.datasets ∨
      arguments.process.text = Process.ZonalStatistics.name ∧
        atCount output.value = surplus arguments.inputs := by
  obtain ⟨draft, drafts⟩ := Process.builtins_drafted (mem_builtin (mem_of_find? found))
  obtain ⟨made, isDraft, rfl, -⟩ := drafts.follows.made called
  intro command member output written
  obtain ⟨original, among, id, rfl⟩ := mem_number member
  have writes := drafts.writes (id_of_find? found).symm isDraft
  refine (writes original among output written).imp_right ?_
  rintro ⟨zonal, input, url, inputs, value⟩
  have suffix : atCount "_regions" = 0 := rfl
  have process : atCount Process.ZonalStatistics.name = 0 :=
    Process.atCount_maker _ (by decide)
  refine ⟨zonal, ?_⟩
  rw [value, inputs, Process.ZonalStatistics.regions, keyedStem]
  simp [surplus, suffix, process]

namespace Compiler

/-- A node that makes a dataset names it with the `@` that are left over of what it reads, one less
if there is a key; the polygons of a statistics keep that one. A name is taken as it is by further
processes exactly if it has none, and no such name has one if no stored dataset has more than the
one before its mapset, which is so if none of its parts has any. -/
theorem compile_atCounts (maxDepth : Nat) (ids : IdSource) {graph : Node} (built : graph.Built)
    {plan : Plan} (compiled : compile ⟨Catalog.builtin, maxDepth⟩ ids graph = .ok plan) :
    (∃ run, Compiler.run ⟨Catalog.builtin, maxDepth⟩ 1 graph (.new ids) = .ok run ∧
      plan.commands = commandsOf run.calls ∧
      ∀ position node, graph.at? position = some node → node.process.text ∈ Process.makers →
        ∃ call ∈ run.calls, ∃ dataset left, call.position = position ∧
          call.product.datasets = [dataset] ∧
          left = surplus (argumentsAt run.calls position node).inputs ∧
          atCount dataset = (left - if node.process.text ∈ Process.keyed then 1 else 0) ∧
          (∀ command ∈ call.product.commands, ∀ output ∈ command.outputs,
            output.value = dataset ∨
              node.process.text = Process.ZonalStatistics.name ∧ atCount output.value = left) ∧
          ∀ name, (name = dataset ∨
              ∃ command ∈ call.product.commands, ∃ output ∈ command.outputs, output.value = name) →
            (stem name = name ↔ '@' ∉ name.toList) ∧
            ((∀ loaded ∈ graph.loaded, atCount loaded = 1) → '@' ∉ name.toList)) ∧
    ∀ reference : Reference, atCount reference.dataset = 1 ↔
      '@' ∉ reference.layer.toList ∧ '@' ∉ reference.mapset.toList := by
  have ordered := built.ordered
  obtain ⟨final, done, -, -, commands⟩ := (compile_ok ordered).mp compiled
  refine ⟨⟨final, done, commands, ?_⟩, fun reference => Reference.atCount_dataset_eq_one⟩
  intro position node found maker
  obtain ⟨before, call, later, -, early, late, entry, grown, here, arguments, -, resolved, called,
    datasets, -⟩ := call_executed ordered done found
  obtain ⟨valid, -, made, named⟩ := maker_at ordered done found maker
  rw [arguments] at called
  have writes := Catalog.builtin_writes _ resolved called
  rw [datasets] at made
  rw [made] at writes
  have count := valid.atCount_dataset (argumentsAt final.calls position node).inputs
  have written : ∀ command ∈ call.product.commands, ∀ output ∈ command.outputs, output.value =
      node.stage.dataset (argumentsAt final.calls position node).inputs ∨
        node.process.text = Process.ZonalStatistics.name ∧
          atCount output.value = surplus (argumentsAt final.calls position node).inputs :=
    fun command member output among =>
      (writes command member output among).imp_left List.mem_singleton.mp
  refine ⟨call, grown ▸ List.mem_append_right _ List.mem_cons_self, _, _, here, made, rfl, count,
    written, fun name makes => ⟨stem_eq_self.trans atCount_eq_zero, fun clear => ?_⟩⟩
  -- Nothing is left over of what the node reads, so neither name can have any.
  have nothing := surplus_eq_zero fun input member => (named input member).atCount_le clear
  rw [nothing] at count written
  rw [← atCount_eq_zero]
  rcases makes with rfl | ⟨command, member, output, among, rfl⟩
  · rw [count]
    exact Nat.zero_sub _
  · rcases written command member output among with same | ⟨-, none⟩
    · rw [same, count]
      exact Nat.zero_sub _
    · exact none

/-- The statistics of the minimum of a series. -/
def zoned (reference url : String) : Node :=
  (Node.new (.sanitize Process.ZonalStatistics.name)).withArgument "imagery"
      (.node (minimum reference))
    |>.withArgument "regions" (.literal (.string url))

theorem zoned_built (reference url : String) : (zoned reference url).Built :=
  .withLiteral (.withNode (.new _) _ (minimum_built reference)) _ _

def zonedSeries : Node :=
  zoned "nc.PERMANENT.strds.temperature" "https://example.com/regions.geojson"

theorem zonedSeries_plain : zonedSeries.Built ∧
    zonedSeries.process.text ∈ Process.makers ∧
    (∀ loaded ∈ zonedSeries.loaded, atCount loaded = 1) ∧ ∃ plan,
      compile ⟨Catalog.builtin, 64⟩ (.sequential 1) zonedSeries = .ok plan ∧
      plan.location = "nc" ∧ ∃ dataset, plan.outputs = [dataset] ∧ '@' ∉ dataset.toList ∧
        stem dataset = dataset := by
  have built : zonedSeries.Built := zoned_built _ _
  have maker : zonedSeries.process.text ∈ Process.makers := by decide +kernel
  have clear : ∀ loaded ∈ zonedSeries.loaded, atCount loaded = 1 := by decide +kernel
  have compiled : (compile ⟨Catalog.builtin, 64⟩ (.sequential 1) zonedSeries).map Plan.location =
      .ok "nc" := by decide +kernel
  obtain ⟨plan, compiles, location⟩ := Outcome.map_eq_ok.mp compiled
  obtain ⟨⟨run, done, -, makes⟩, -⟩ := compile_atCounts 64 (.sequential 1) built compiles
  obtain ⟨call, member, dataset, left, here, datasets, -, -, -, plain⟩ :=
    makes [] zonedSeries rfl maker
  obtain ⟨final, same, -, outputs, -⟩ := (compile_ok built.ordered).mp compiles
  obtain rfl : final = run := Except.ok.inj (same.symm.trans done)
  have nodup : (final.calls.map (·.position)).Nodup :=
    positions_of_run done ▸ Node.leftPositions_nodup built.ordered []
  have root := datasetsAt_of_mem nodup member
  rw [here, datasets] at root
  obtain ⟨unchanged, none⟩ := plain dataset (Or.inl rfl)
  exact ⟨built, maker, clear, plan, compiles, location, dataset, outputs.trans root, none clear,
    unchanged.mpr (none clear)⟩

/-- The minimum of a series with an `@` in the name of its layer. -/
def markedLayer : Node := minimum "nc.PERMANENT.strds.a@b"

/-- The name of the minimum has an `@`, and loses it to the next process. -/
theorem markedLayer_left : markedLayer.Built ∧ markedLayer.process.text = Process.MinTime.name ∧
    (compile ⟨Catalog.builtin, 64⟩ (.sequential 1) markedLayer).map Plan.outputs =
      .ok ["a_b@PERMANENT_min_time"] ∧
    '@' ∈ "a_b@PERMANENT_min_time".toList ∧
    stem "a_b@PERMANENT_min_time" = "a_b_PERMANENT_min_time" :=
  ⟨minimum_built _, by decide +kernel, by decide +kernel, by decide +kernel, by decide +kernel⟩

end Compiler

end GeoChain
