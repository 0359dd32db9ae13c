import GeoChain.Process.Builtin
import GeoChain.Proofs.Compile.Draft
import GeoChain.Proofs.Compile.MainInput

/-!
# Drafts of the processes

Every built-in process and every module follows a draft. Only `get_data` notes a location. All other
processes pass on datasets that they received or make datasets that a command of theirs writes, and
the built-in ones do not run without data. The draft of a built-in process settles everything but
the ids of the steps.
-/

namespace GeoChain

/-- A call that works on data: it notes no location, and every dataset that it makes was received
or is written by one of its commands. -/
structure Draft.Transforms (made : Draft) (arguments : Arguments) : Prop where
  unlocated : made.location = none
  sourced : ∀ dataset ∈ made.datasets, dataset ∈ ModuleRun.received arguments.values ∨
    ∃ command ∈ made.commands, ∃ output ∈ command.outputs, output.value = dataset

/-- Such a call that makes datasets only if it receives some. -/
structure Draft.NeedsData (made : Draft) (arguments : Arguments) : Prop
    extends made.Transforms arguments where
  reads : made.datasets ≠ [] → ModuleRun.received arguments.values ≠ []

variable {arguments : Arguments} {made : Draft}

theorem Draft.needsData_of_passed (unlocated : made.location = none)
    (passed : arguments.primaryData = .ok made.datasets) : made.NeedsData arguments := by
  obtain ⟨name, held⟩ := Arguments.primaryData_ok passed
  have received : ∀ dataset ∈ made.datasets, dataset ∈ ModuleRun.received arguments.values :=
    fun dataset member => Arguments.received_of_get? held member
  refine ⟨⟨unlocated, fun dataset member => Or.inl (received dataset member)⟩, fun nonempty => ?_⟩
  obtain ⟨dataset, member⟩ := List.exists_mem_of_ne_nil _ nonempty
  exact List.ne_nil_of_mem (received dataset member)

theorem Draft.needsData_of_written (unlocated : made.location = none) {name input : String}
    (held : arguments.get? name = some (.data [input]))
    (written : ∀ dataset ∈ made.datasets,
      ∃ command ∈ made.commands, ∃ output ∈ command.outputs, output.value = dataset) :
    made.NeedsData arguments := by
  refine ⟨⟨unlocated, fun dataset member => Or.inr (written dataset member)⟩, fun _ => ?_⟩
  exact List.ne_nil_of_mem (Arguments.received_of_get? held List.mem_cons_self)

namespace Process

namespace GetData

/-- What a call with a reference makes. -/
def loaded (reference : Reference) : Draft :=
  ⟨name, some reference.location, [reference.dataset],
    [command "" reference.dataset reference.datatype]⟩

def draft (arguments : Arguments) : Except CompileError Draft := do
  let text ← arguments.requireText "data_id"
  let reference ← reference text
  return loaded reference

theorem reference_ok {text : String} {found : Reference} :
    reference text = .ok found ↔ Reference.read text = .ok found := by
  rw [reference]
  cases Reference.read text with
  | error problem => simp
  | ok other => simp

theorem draft_ok : draft arguments = .ok made ↔ ∃ text reference,
    arguments.get? "data_id" = some (.literal (.string text)) ∧
    Reference.read text = .ok reference ∧ made = loaded reference := by
  simp only [draft, Outcome.bind_eq_ok, Arguments.requireText_ok, reference_ok, Outcome.pure_eq,
    Except.ok.injEq]
  constructor
  · rintro ⟨text, held, reference, read, rfl⟩
    exact ⟨text, reference, held, read, rfl⟩
  · rintro ⟨text, reference, held, read, rfl⟩
    exact ⟨text, held, reference, read, rfl⟩

theorem emit_follows : emit.Follows fun arguments _ => draft arguments := by
  intro arguments context
  refine .check fun text => .check fun reference => ?_
  obtain ⟨location, mapset, datatype, layer⟩ := reference
  cases datatype with
  | raster => rfl
  | strds => rfl
  | vector => rfl

/-- What a successful call did. -/
theorem call_ok {context after : Context} {product : Product}
    (called : (emit arguments).execute context = (.ok product, after)) : ∃ text reference,
      arguments.get? "data_id" = some (.literal (.string text)) ∧
      Reference.read text = .ok reference ∧ product = (loaded reference).product context.ids ∧
      after = (loaded reference).after context := by
  obtain ⟨made, isDraft, rfl, rfl⟩ := emit_follows.made called
  obtain ⟨text, reference, held, read, rfl⟩ := draft_ok.mp isDraft
  exact ⟨text, reference, held, read, rfl, rfl⟩

theorem draft_declines (arguments : Arguments) : Declines (draft arguments) := by
  refine (Arguments.requireText_declines _ arguments).bind fun text => ?_
  refine Declines.bind ?_ fun reference => .ok _
  rw [reference]
  split
  · exact .ok _
  · intro failed
    cases failed

end GetData

namespace FilterBbox

def draft (arguments : Arguments) : Except CompileError Draft := do
  let datasets ← arguments.primaryData
  let inputs ← inputs arguments
  return ⟨name, none, datasets, [⟨"", "g.region", inputs, [], some "p"⟩]⟩

theorem emit_follows : emit.Follows fun arguments _ => draft arguments := by
  intro arguments context
  refine .check fun datasets => ?_
  rw [Emission.execute_draw]
  cases inputs arguments with
  | error cause => exact ⟨context.advance, rfl, rfl⟩
  | ok inputs => rfl

theorem edgeInputs_declines (arguments : Arguments) (edges : List (String × String)) :
    Declines (edgeInputs arguments edges) := by
  induction edges with
  | nil => exact .ok _
  | cons first rest ih =>
    exact (Arguments.require_declines (Arguments.optionalNumber_declines _ arguments)).bind
      fun x => ih.bind fun others => .ok _

theorem resolutionInputs_declines (arguments : Arguments)
    (resolutions : List (String × String)) :
    Declines (resolutionInputs arguments resolutions) := by
  induction resolutions with
  | nil => exact .ok _
  | cons first rest ih =>
    refine (Arguments.optionalNumber_declines _ arguments).bind fun x? => ih.bind fun others => ?_
    cases x? with
    | none => exact .ok _
    | some x => exact .ok _

theorem draft_declines (arguments : Arguments) : Declines (draft arguments) := by
  refine (Arguments.primaryData_declines arguments).bind fun datasets => ?_
  refine Declines.bind ?_ fun inputs => .ok _
  exact (edgeInputs_declines arguments edges).bind fun edged =>
    (resolutionInputs_declines arguments resolutions).bind fun resolved => .ok _

theorem draft_needsData (drafted : draft arguments = .ok made) : made.NeedsData arguments := by
  simp only [draft, Outcome.bind_eq_ok, Outcome.pure_eq, Except.ok.injEq] at drafted
  obtain ⟨datasets, main, inputs, -, rfl⟩ := drafted
  exact Draft.needsData_of_passed rfl main

end FilterBbox

namespace FilterDaterange

def draft (arguments : Arguments) : Except CompileError Draft := do
  let input ← arguments.primarySingle
  let start ← bound "from" arguments
  let stop ← bound "to" arguments
  let output := Dataset.derived (Dataset.keyedStem input (range start stop)) name
  return ⟨name, none, [output], [Command.new "" "t.rast.extract"
    |>.withInput "input" input
    |>.withInput "where" (condition start stop)
    |>.withOutput "output" output]⟩

theorem emit_follows : emit.Follows fun arguments _ => draft arguments := by
  intro arguments context
  refine .check fun input => .check fun start => .check fun stop => ?_
  -- The key is a digest, which is not to be computed here.
  dsimp only
  generalize Dataset.keyedStem input (range start stop) = stem
  rfl

theorem bound_declines (name : String) (arguments : Arguments) :
    Declines (bound name arguments) := by
  refine (Arguments.requireText_declines _ arguments).bind fun text => ?_
  dsimp only
  split
  · exact .ok _
  · intro failed
    cases failed

theorem draft_declines (arguments : Arguments) : Declines (draft arguments) :=
  (Arguments.primarySingle_declines arguments).bind fun _ =>
    (bound_declines "from" arguments).bind fun _ =>
      (bound_declines "to" arguments).bind fun _ => .ok _

theorem draft_needsData (drafted : draft arguments = .ok made) : made.NeedsData arguments := by
  simp only [draft, Outcome.bind_eq_ok, Outcome.pure_eq, Except.ok.injEq] at drafted
  obtain ⟨input, main, start, -, stop, -, rfl⟩ := drafted
  obtain ⟨name, held⟩ := Arguments.primarySingle_ok main
  exact Draft.needsData_of_written rfl held (by simp [Command.withOutput])

end FilterDaterange

namespace MinTime

def draft (arguments : Arguments) : Except CompileError Draft := do
  let input ← arguments.primarySingle
  let output := Dataset.derived input name
  return ⟨name, none, [output], [Command.new "" "t.rast.series"
    |>.withInput "input" input
    |>.withInput "method" "minimum"
    |>.withOutput "output" output]⟩

theorem emit_follows : emit.Follows fun arguments _ => draft arguments := by
  intro arguments context
  exact .check fun input => rfl

theorem draft_declines (arguments : Arguments) : Declines (draft arguments) :=
  (Arguments.primarySingle_declines arguments).bind fun _ => .ok _

theorem draft_needsData (drafted : draft arguments = .ok made) : made.NeedsData arguments := by
  simp only [draft, Outcome.bind_eq_ok, Outcome.pure_eq, Except.ok.injEq] at drafted
  obtain ⟨input, main, rfl⟩ := drafted
  obtain ⟨name, held⟩ := Arguments.primarySingle_ok main
  exact Draft.needsData_of_written rfl held (by simp [Command.withOutput])

end MinTime

namespace UdfReduceTime

def draft (arguments : Arguments) : Except CompileError Draft := do
  let input ← arguments.primarySingle
  let url ← arguments.requireText "python_file_url"
  let output := Dataset.derived (Dataset.keyedStem input url) name
  return ⟨name, none, [output], [Command.new "" "t.rast.aggr_func"
    |>.withInput "input" input
    |>.withImport "pyfile" url ⟨.file, url⟩
    |>.withOutput "output" output]⟩

theorem emit_follows : emit.Follows fun arguments _ => draft arguments := by
  intro arguments context
  refine .check fun input => .check fun url => ?_
  dsimp only
  generalize Dataset.keyedStem input url = stem
  rfl

theorem draft_declines (arguments : Arguments) : Declines (draft arguments) :=
  (Arguments.primarySingle_declines arguments).bind fun _ =>
    (Arguments.requireText_declines _ arguments).bind fun _ => .ok _

theorem draft_needsData (drafted : draft arguments = .ok made) : made.NeedsData arguments := by
  simp only [draft, Outcome.bind_eq_ok, Outcome.pure_eq, Except.ok.injEq] at drafted
  obtain ⟨input, main, url, -, rfl⟩ := drafted
  obtain ⟨name, held⟩ := Arguments.primarySingle_ok main
  exact Draft.needsData_of_written rfl held (by simp [Command.withOutput])

end UdfReduceTime

namespace Ndvi

def draft (arguments : Arguments) : Except CompileError Draft := do
  let red ← arguments.requireSingle "red"
  let nir ← arguments.requireSingle "nir"
  let output := Dataset.joined [red, nir] name
  return ⟨name, none, [output], [Command.new "" "t.rast.mapcalc"
    |>.withInput "inputs" (red ++ "," ++ nir)
    |>.withInput "expression" (expression output red nir)
    |>.withInput "basename" name
    |>.withOutput "output" output]⟩

theorem emit_follows : emit.Follows fun arguments _ => draft arguments := by
  intro arguments context
  exact .check fun red => .check fun nir => rfl

theorem draft_declines (arguments : Arguments) : Declines (draft arguments) :=
  (Arguments.requireSingle_declines _ arguments).bind fun _ =>
    (Arguments.requireSingle_declines _ arguments).bind fun _ => .ok _

theorem draft_needsData (drafted : draft arguments = .ok made) : made.NeedsData arguments := by
  simp only [draft, Outcome.bind_eq_ok, Outcome.pure_eq, Except.ok.injEq] at drafted
  obtain ⟨red, single, nir, -, rfl⟩ := drafted
  exact Draft.needsData_of_written rfl (Arguments.requireSingle_ok.mp single)
    (by simp [Command.withOutput])

end Ndvi

namespace RasterExporter

def draft (arguments : Arguments) : Except CompileError Draft := do
  let datasets ← arguments.primaryData
  return ⟨name, none, datasets, datasets.map (command "")⟩

theorem execute_commands (datasets : List String) (context : Context) :
    (commands datasets).execute context =
      (.ok (number name (datasets.map (command "")) context.ids),
        ⟨context.locations, context.ids.advanceBy datasets.length⟩) := by
  induction datasets generalizing context with
  | nil => rfl
  | cons dataset rest ih =>
    rw [commands, Emission.execute_draw, Emission.execute_bind, ih]
    rfl

theorem emit_follows : emit.Follows fun arguments _ => draft arguments := by
  intro arguments context
  refine .check fun datasets => ?_
  rw [Emission.execute_bind, execute_commands]
  simp only [Draft.Done, Outcome.pure_eq, Draft.product, Draft.after, Draft.note, List.length_map]
  rfl

theorem draft_declines (arguments : Arguments) : Declines (draft arguments) :=
  (Arguments.primaryData_declines arguments).bind fun _ => .ok _

theorem draft_needsData (drafted : draft arguments = .ok made) : made.NeedsData arguments := by
  simp only [draft, Outcome.bind_eq_ok, Outcome.pure_eq, Except.ok.injEq] at drafted
  obtain ⟨datasets, main, rfl⟩ := drafted
  exact Draft.needsData_of_passed rfl main

end RasterExporter

namespace ZonalStatistics

def commands (input url : String) : List Command :=
  let stem := Dataset.keyedStem input url
  [Command.new "" "v.import"
    |>.withImport "input" url ⟨.vector, url⟩
    |>.withOutput "output" (regions stem),
  Command.new "" "g.region" |>.withInput "vector" (regions stem) |>.withFlags "p",
  Command.new "" "r.mask" |>.withInput "vector" (regions stem),
  Command.new "" "t.rast.univar"
    |>.withInput "input" input
    |>.withOutput "output" (Dataset.derived stem name)]

def draft (arguments : Arguments) : Except CompileError Draft := do
  let input ← arguments.primarySingle
  let url ← arguments.requireText "regions"
  return ⟨name, none, [Dataset.derived (Dataset.keyedStem input url) name], commands input url⟩

theorem emit_follows : emit.Follows fun arguments _ => draft arguments := by
  intro arguments context
  refine .check fun input => .check fun url => ?_
  dsimp only [commands]
  generalize Dataset.keyedStem input url = stem
  rfl

theorem draft_declines (arguments : Arguments) : Declines (draft arguments) :=
  (Arguments.primarySingle_declines arguments).bind fun _ =>
    (Arguments.requireText_declines _ arguments).bind fun _ => .ok _

theorem draft_needsData (drafted : draft arguments = .ok made) : made.NeedsData arguments := by
  simp only [draft, Outcome.bind_eq_ok, Outcome.pure_eq, Except.ok.injEq] at drafted
  obtain ⟨input, main, url, -, rfl⟩ := drafted
  obtain ⟨name, held⟩ := Arguments.primarySingle_ok main
  exact Draft.needsData_of_written rfl held (by simp [commands, Command.withOutput])

end ZonalStatistics

/-- The built-in processes, each with its draft. -/
inductive Drafts : Entry → (Arguments → Except CompileError Draft) → Prop where
  | getData : Drafts ⟨GetData.description, GetData.emit⟩ GetData.draft
  | filterBbox : Drafts ⟨FilterBbox.description, FilterBbox.emit⟩ FilterBbox.draft
  | filterDaterange : Drafts ⟨FilterDaterange.description, FilterDaterange.emit⟩ FilterDaterange.draft
  | minTime : Drafts ⟨MinTime.description, MinTime.emit⟩ MinTime.draft
  | ndvi : Drafts ⟨Ndvi.description, Ndvi.emit⟩ Ndvi.draft
  | rasterExporter : Drafts ⟨RasterExporter.description, RasterExporter.emit⟩ RasterExporter.draft
  | zonalStatistics : Drafts ⟨ZonalStatistics.description, ZonalStatistics.emit⟩ ZonalStatistics.draft
  | udfReduceTime : Drafts ⟨UdfReduceTime.description, UdfReduceTime.emit⟩ UdfReduceTime.draft

theorem builtins_drafted {entry : Entry} (member : entry ∈ builtins) :
    ∃ draft, Drafts entry draft := by
  simp only [builtins, List.mem_cons, List.not_mem_nil, or_false] at member
  rcases member with rfl | rfl | rfl | rfl | rfl | rfl | rfl | rfl
  · exact ⟨_, .getData⟩
  · exact ⟨_, .filterBbox⟩
  · exact ⟨_, .filterDaterange⟩
  · exact ⟨_, .minTime⟩
  · exact ⟨_, .ndvi⟩
  · exact ⟨_, .rasterExporter⟩
  · exact ⟨_, .zonalStatistics⟩
  · exact ⟨_, .udfReduceTime⟩

namespace Drafts

variable {entry : Entry} {draft : Arguments → Except CompileError Draft}

/-- The draft of a built-in process does not depend on the ids of its steps. -/
theorem follows (drafts : Drafts entry draft) :
    entry.emitter.Follows fun arguments _ => draft arguments := by
  cases drafts with
  | getData => exact GetData.emit_follows
  | filterBbox => exact FilterBbox.emit_follows
  | filterDaterange => exact FilterDaterange.emit_follows
  | minTime => exact MinTime.emit_follows
  | ndvi => exact Ndvi.emit_follows
  | rasterExporter => exact RasterExporter.emit_follows
  | zonalStatistics => exact ZonalStatistics.emit_follows
  | udfReduceTime => exact UdfReduceTime.emit_follows

theorem declines (drafts : Drafts entry draft) : ∀ arguments, Declines (draft arguments) := by
  cases drafts with
  | getData => exact GetData.draft_declines
  | filterBbox => exact FilterBbox.draft_declines
  | filterDaterange => exact FilterDaterange.draft_declines
  | minTime => exact MinTime.draft_declines
  | ndvi => exact Ndvi.draft_declines
  | rasterExporter => exact RasterExporter.draft_declines
  | zonalStatistics => exact ZonalStatistics.draft_declines
  | udfReduceTime => exact UdfReduceTime.draft_declines

theorem needsData (drafts : Drafts entry draft) : entry.emitter = GetData.emit ∨
    ∀ arguments made, draft arguments = .ok made → made.NeedsData arguments := by
  cases drafts with
  | getData => exact Or.inl rfl
  | filterBbox => exact Or.inr fun _ _ => FilterBbox.draft_needsData
  | filterDaterange => exact Or.inr fun _ _ => FilterDaterange.draft_needsData
  | minTime => exact Or.inr fun _ _ => MinTime.draft_needsData
  | ndvi => exact Or.inr fun _ _ => Ndvi.draft_needsData
  | rasterExporter => exact Or.inr fun _ _ => RasterExporter.draft_needsData
  | zonalStatistics => exact Or.inr fun _ _ => ZonalStatistics.draft_needsData
  | udfReduceTime => exact Or.inr fun _ _ => UdfReduceTime.draft_needsData

end Drafts

end Process

end GeoChain
