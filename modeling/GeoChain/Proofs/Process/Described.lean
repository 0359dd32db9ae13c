import GeoChain.Proofs.Catalog.Resolved
import GeoChain.Proofs.Compile.MainInput

/-!
# Descriptions of the built-in processes

What clients are told about a built-in process is what it does with its arguments. It succeeds only
if its required parameters are provided, reports none but those as missing, can do without its
optional ones, and looks at no other argument, the other name of the main input apart.
-/

namespace GeoChain

/-- The names that a process may look at: its parameters, and the other name of the main input. -/
def Description.reads (described : Description) : List String :=
  Arguments.fallbackName :: described.parameters.map (·.name)

/-- A draft that does what a description says of its parameters: it requires the required ones, and
leaving out an optional one does not change what it makes. -/
structure Description.Kept (described : Description)
    (draft : Arguments → Except CompileError Draft) : Prop where
  requires : ∀ arguments, Arguments.Requires described.required arguments (draft arguments)
  optional : ∀ parameter ∈ described.parameters, parameter.required = false →
    ∀ arguments made, draft arguments = .ok made →
      ∃ other, draft (arguments.without parameter.name) = .ok other ∧
        other.datasets = made.datasets

theorem Description.Kept.of_required {described : Description}
    {draft : Arguments → Except CompileError Draft}
    (requires : ∀ arguments, Arguments.Requires described.required arguments (draft arguments))
    (all : ∀ parameter ∈ described.parameters, parameter.required = true) :
    described.Kept draft := by
  refine ⟨requires, fun parameter member optional => ?_⟩
  rw [all parameter member] at optional
  cases optional

namespace Process

variable {arguments one other : Arguments} {names : List String}

namespace GetData

theorem draft_requires (arguments : Arguments) :
    arguments.Requires description.required (draft arguments) := by
  have required : description.required = ["data_id"] := rfl
  rw [required]
  refine (Arguments.requireText_requires (by decide)).bind fun text => ?_
  refine Arguments.Requires.bind (.of_not_missing fun process name failed => ?_) fun _ => .ok _
  rw [reference] at failed
  split at failed
  · cases failed
  · cases failed

theorem emit_congr (agree : Arguments.AgreeOn description.reads one other) :
    emit one = emit other := by
  rw [emit, emit, Arguments.requireText_congr agree (by decide)]

end GetData

namespace FilterBbox

theorem edgeInputs_requires {edges : List (String × String)}
    (apart : ∀ edge ∈ edges, edge.1 ≠ Arguments.mainName) :
    arguments.Requires (edges.map (·.1)) (edgeInputs arguments edges) := by
  induction edges with
  | nil => exact .ok _
  | cons first rest ih =>
    obtain ⟨edge, param⟩ := first
    obtain ⟨here, later⟩ := List.forall_mem_cons.mp apart
    exact (Arguments.requireNumber_requires here).bind fun x =>
      (ih later).map fun inputs => (⟨param, x.plainText, none⟩ : Input) :: inputs

theorem resolutionInputs_requires (resolutions : List (String × String)) :
    arguments.Requires [] (resolutionInputs arguments resolutions) := by
  induction resolutions with
  | nil => exact .ok _
  | cons first rest ih =>
    refine Arguments.optionalNumber_requires.bind fun x? => ih.bind fun inputs => ?_
    cases x? with
    | none => exact .ok _
    | some x => exact .ok _

theorem draft_requires (arguments : Arguments) :
    arguments.Requires description.required (draft arguments) := by
  have required : description.required = [Arguments.mainName] ++ edges.map (·.1) := rfl
  rw [required]
  refine Arguments.primaryData_requires.bind fun datasets => ?_
  have edged : arguments.Requires (edges.map (·.1)) (edgeInputs arguments edges) :=
    edgeInputs_requires (by decide)
  have inputs : arguments.Requires (edges.map (·.1)) (inputs arguments) :=
    edged.bind fun _ => (resolutionInputs_requires resolutions).map _
  exact inputs.map _

theorem edgeInputs_congr (agree : Arguments.AgreeOn names one other)
    {edges : List (String × String)} (reads : ∀ edge ∈ edges, edge.1 ∈ names) :
    edgeInputs one edges = edgeInputs other edges := by
  induction edges with
  | nil => rfl
  | cons first rest ih =>
    obtain ⟨here, later⟩ := List.forall_mem_cons.mp reads
    rw [edgeInputs, edgeInputs, Arguments.requireNumber_congr agree here, ih later]

theorem resolutionInputs_congr (agree : Arguments.AgreeOn names one other)
    {resolutions : List (String × String)}
    (reads : ∀ resolution ∈ resolutions, resolution.1 ∈ names) :
    resolutionInputs one resolutions = resolutionInputs other resolutions := by
  induction resolutions with
  | nil => rfl
  | cons first rest ih =>
    obtain ⟨here, later⟩ := List.forall_mem_cons.mp reads
    rw [resolutionInputs, resolutionInputs, Arguments.optionalNumber_congr agree here, ih later]

theorem emit_congr (agree : Arguments.AgreeOn description.reads one other) :
    emit one = emit other := by
  have same : inputs one = inputs other := by
    rw [inputs, inputs, edgeInputs_congr agree (by decide),
      resolutionInputs_congr agree (by decide)]
  rw [emit, emit, Arguments.primaryData_congr agree (by decide) (by decide), same]

/-- The resolutions can be read if each of them is a number or absent. -/
theorem resolutionInputs_ok {resolutions : List (String × String)} :
    (∃ inputs, resolutionInputs arguments resolutions = .ok inputs) ↔
      ∀ resolution ∈ resolutions, ∃ x?, arguments.optionalNumber resolution.1 = .ok x? := by
  induction resolutions with
  | nil => simp [resolutionInputs]
  | cons first rest ih =>
    obtain ⟨resolution, param⟩ := first
    rw [List.forall_mem_cons, ← ih]
    simp only [resolutionInputs, Outcome.bind_eq_ok]
    constructor
    · rintro ⟨inputs, x?, read, others, later, -⟩
      exact ⟨⟨x?, read⟩, others, later⟩
    · rintro ⟨⟨x?, read⟩, others, later⟩
      cases x? with
      | none => exact ⟨others, none, read, others, later, rfl⟩
      | some x => exact ⟨_, some x, read, others, later, rfl⟩

theorem draft_without {made : Draft} {left : String} (optional : left ∈ resolutions.map (·.1))
    (drafted : draft arguments = .ok made) :
    ∃ other, draft (arguments.without left) = .ok other ∧ other.datasets = made.datasets := by
  simp only [draft, inputs, Outcome.bind_eq_ok, Outcome.pure_eq, Except.ok.injEq] at drafted
  obtain ⟨datasets, main, _, ⟨edged, readEdges, resolved, readAll, -⟩, rfl⟩ := drafted
  have others : ∀ left ∈ resolutions.map (·.1),
      left ∉ Arguments.mainName :: Arguments.fallbackName :: edges.map (·.1) := by decide
  have agree := Arguments.without_agree (others left optional) arguments
  -- The resolution that is left out reads as absent, and every other one reads as before.
  have fewer : ∃ inputs, resolutionInputs (arguments.without left) resolutions = .ok inputs := by
    refine resolutionInputs_ok.mpr fun resolution member => ?_
    by_cases same : left = resolution.1
    · have absent := Arguments.given?_without_self left arguments
      rw [same] at absent ⊢
      exact ⟨none, Arguments.optionalNumber_of_absent absent⟩
    · have apart : left ∉ [resolution.1] := fun member => same (List.mem_singleton.mp member)
      rw [Arguments.optionalNumber_congr (Arguments.without_agree apart arguments)
        List.mem_cons_self]
      exact resolutionInputs_ok.mp ⟨resolved, readAll⟩ resolution member
  obtain ⟨inputs, readFewer⟩ := fewer
  refine ⟨⟨name, none, datasets, [⟨"", "g.region", edged ++ inputs, [], some "p"⟩]⟩, ?_, rfl⟩
  rw [draft, Arguments.primaryData_congr agree (by decide) (by decide), main, Outcome.ok_bind,
    FilterBbox.inputs, edgeInputs_congr agree (by decide), readEdges, Outcome.ok_bind, readFewer]
  rfl

theorem draft_kept : description.Kept draft := by
  have optional : ∀ parameter ∈ description.parameters, parameter.required = false →
      parameter.name ∈ resolutions.map (·.1) := by decide
  exact ⟨draft_requires, fun parameter member notRequired arguments made drafted =>
    draft_without (optional parameter member notRequired) drafted⟩

end FilterBbox

namespace FilterDaterange

theorem bound_requires {name : String} (apart : name ≠ Arguments.mainName) :
    arguments.Requires [name] (bound name arguments) := by
  rw [← List.append_nil [name]]
  refine (Arguments.requireText_requires apart).bind fun text => ?_
  refine .of_not_missing fun process missing failed => ?_
  dsimp only at failed
  split at failed
  · cases failed
  · cases failed

theorem draft_requires (arguments : Arguments) :
    arguments.Requires description.required (draft arguments) := by
  have required : description.required = [Arguments.mainName, "from", "to"] := rfl
  rw [required]
  exact Arguments.primarySingle_requires.bind fun _ => (bound_requires (by decide)).bind fun _ =>
    (bound_requires (by decide)).bind fun _ => .ok _

theorem bound_congr (agree : Arguments.AgreeOn names one other) {name : String}
    (reads : name ∈ names) : bound name one = bound name other := by
  rw [bound, bound, Arguments.requireText_congr agree reads]

theorem emit_congr (agree : Arguments.AgreeOn description.reads one other) :
    emit one = emit other := by
  rw [emit, emit, Arguments.primarySingle_congr agree (by decide) (by decide),
    bound_congr agree (by decide), bound_congr agree (by decide)]

end FilterDaterange

namespace MinTime

theorem draft_requires (arguments : Arguments) :
    arguments.Requires description.required (draft arguments) := by
  have required : description.required = [Arguments.mainName] := rfl
  rw [required]
  exact Arguments.primarySingle_requires.bind fun _ => .ok _

theorem emit_congr (agree : Arguments.AgreeOn description.reads one other) :
    emit one = emit other := by
  rw [emit, emit, Arguments.primarySingle_congr agree (by decide) (by decide)]

end MinTime

namespace Ndvi

theorem draft_requires (arguments : Arguments) :
    arguments.Requires description.required (draft arguments) := by
  have required : description.required = ["red", "nir"] := rfl
  rw [required]
  exact (Arguments.requireSingle_requires (by decide)).bind fun _ =>
    (Arguments.requireSingle_requires (by decide)).bind fun _ => .ok _

theorem emit_congr (agree : Arguments.AgreeOn description.reads one other) :
    emit one = emit other := by
  rw [emit, emit, Arguments.requireSingle_congr agree (by decide),
    Arguments.requireSingle_congr agree (by decide)]

end Ndvi

namespace RasterExporter

theorem draft_requires (arguments : Arguments) :
    arguments.Requires description.required (draft arguments) := by
  have required : description.required = [Arguments.mainName] := rfl
  rw [required]
  exact Arguments.primaryData_requires.bind fun _ => .ok _

theorem emit_congr (agree : Arguments.AgreeOn description.reads one other) :
    emit one = emit other := by
  rw [emit, emit, Arguments.primaryData_congr agree (by decide) (by decide)]

end RasterExporter

namespace ZonalStatistics

theorem draft_requires (arguments : Arguments) :
    arguments.Requires description.required (draft arguments) := by
  have required : description.required = [Arguments.mainName, "regions"] := rfl
  rw [required]
  exact Arguments.primarySingle_requires.bind fun _ =>
    (Arguments.requireText_requires (by decide)).bind fun _ => .ok _

theorem emit_congr (agree : Arguments.AgreeOn description.reads one other) :
    emit one = emit other := by
  rw [emit, emit, Arguments.primarySingle_congr agree (by decide) (by decide),
    Arguments.requireText_congr agree (by decide)]

end ZonalStatistics

namespace UdfReduceTime

theorem draft_requires (arguments : Arguments) :
    arguments.Requires description.required (draft arguments) := by
  have required : description.required = [Arguments.mainName, "python_file_url"] := rfl
  rw [required]
  exact Arguments.primarySingle_requires.bind fun _ =>
    (Arguments.requireText_requires (by decide)).bind fun _ => .ok _

theorem emit_congr (agree : Arguments.AgreeOn description.reads one other) :
    emit one = emit other := by
  rw [emit, emit, Arguments.primarySingle_congr agree (by decide) (by decide),
    Arguments.requireText_congr agree (by decide)]

end UdfReduceTime

theorem Drafts.kept {entry : Entry} {draft : Arguments → Except CompileError Draft}
    (drafts : Drafts entry draft) : entry.description.Kept draft := by
  cases drafts with
  | getData => exact .of_required GetData.draft_requires (by decide)
  | filterBbox => exact FilterBbox.draft_kept
  | filterDaterange => exact .of_required FilterDaterange.draft_requires (by decide)
  | minTime => exact .of_required MinTime.draft_requires (by decide)
  | ndvi => exact .of_required Ndvi.draft_requires (by decide)
  | rasterExporter => exact .of_required RasterExporter.draft_requires (by decide)
  | zonalStatistics => exact .of_required ZonalStatistics.draft_requires (by decide)
  | udfReduceTime => exact .of_required UdfReduceTime.draft_requires (by decide)

/-- A built-in process follows a draft that keeps to its description. -/
theorem builtins_keep {entry : Entry} (member : entry ∈ builtins) :
    ∃ draft : Arguments → Except CompileError Draft,
      entry.emitter.Follows (fun arguments _ => draft arguments) ∧
        entry.description.Kept draft := by
  obtain ⟨draft, drafts⟩ := builtins_drafted member
  exact ⟨draft, drafts.follows, drafts.kept⟩

/-- A built-in process looks at no other arguments than its description says. -/
theorem builtins_congr {entry : Entry} (member : entry ∈ builtins)
    (agree : Arguments.AgreeOn entry.description.reads one other) :
    entry.emitter one = entry.emitter other := by
  obtain ⟨draft, drafts⟩ := builtins_drafted member
  cases drafts with
  | getData => exact GetData.emit_congr agree
  | filterBbox => exact FilterBbox.emit_congr agree
  | filterDaterange => exact FilterDaterange.emit_congr agree
  | minTime => exact MinTime.emit_congr agree
  | ndvi => exact Ndvi.emit_congr agree
  | rasterExporter => exact RasterExporter.emit_congr agree
  | zonalStatistics => exact ZonalStatistics.emit_congr agree
  | udfReduceTime => exact UdfReduceTime.emit_congr agree

/-- A call of a built-in process that succeeds was given every parameter that its description marks
as required, and makes the same datasets without any of the others. An argument that is reported as
missing is a required parameter that is absent. Nothing but the parameters, and the other name of
the main input, has any influence. -/
theorem builtins_described {entry : Entry} (builtIn : entry ∈ builtins)
    (values : List (String × Value)) (context : Context) :
    (∀ product after, (entry.emitter ⟨entry.id, values⟩).execute context = (.ok product, after) →
      (∀ name ∈ entry.description.required, Arguments.Provides name ⟨entry.id, values⟩) ∧
      ∀ parameter ∈ entry.description.parameters, parameter.required = false → ∃ other left,
        (entry.emitter ⟨entry.id, Keyed.erase parameter.name values⟩).execute context =
          (.ok other, left) ∧ other.datasets = product.datasets) ∧
    (∀ process name after, (entry.emitter ⟨entry.id, values⟩).execute context =
        (.error (.failed (.missingArgument process name)), after) →
      process = entry.id.text ∧ name ∈ entry.description.required ∧
        Arguments.given? name ⟨entry.id, values⟩ = none) ∧
    ∀ others, (∀ name ∈ entry.description.reads,
        Arguments.get? name ⟨entry.id, others⟩ = Arguments.get? name ⟨entry.id, values⟩) →
      entry.emitter ⟨entry.id, others⟩ = entry.emitter ⟨entry.id, values⟩ := by
  obtain ⟨draft, follows, kept⟩ := builtins_keep builtIn
  refine ⟨?_, ?_, ?_⟩
  · intro product after called
    obtain ⟨made, drafted, rfl, -⟩ := follows.made called
    refine ⟨(kept.requires _).provided made drafted, ?_⟩
    intro parameter member optional
    obtain ⟨other, fewer, same⟩ := kept.optional parameter member optional _ made drafted
    exact ⟨_, _, follows.does context fewer, same⟩
  · intro process name after called
    obtain ⟨cause, drafted, halted⟩ := follows.failed called
    cases halted
    exact (kept.requires _).missing process name drafted
  · intro others same
    refine builtins_congr builtIn ⟨rfl, fun name reads => ?_⟩
    rw [Arguments.given?, Arguments.given?, same name reads]

def boxEntry : Entry := ⟨FilterBbox.description, FilterBbox.emit⟩

def boxValues : List (String × Value) := [
  ("bottom", .literal (.int 215000)), ("ewres", .literal (.int 10)),
  ("imagery", .data ["elevation@PERMANENT"]), ("left", .literal (.int 630000)),
  ("right", .literal (.int 645000)), ("top", .literal (.string "228500.5"))]

theorem box_described : boxEntry ∈ builtins ∧ ∃ product after other left,
    (boxEntry.emitter ⟨boxEntry.id, boxValues⟩).execute (.new (.sequential 1)) =
      (.ok product, after) ∧ product.datasets = ["elevation@PERMANENT"] ∧
    (boxEntry.emitter ⟨boxEntry.id, Keyed.erase "ewres" boxValues⟩).execute
      (.new (.sequential 1)) = (.ok other, left) ∧ other.datasets = product.datasets := by
  have builtIn : boxEntry ∈ builtins := List.mem_cons_of_mem _ List.mem_cons_self
  obtain ⟨product, after, called, datasets⟩ : ∃ product after,
      (boxEntry.emitter ⟨boxEntry.id, boxValues⟩).execute (.new (.sequential 1)) =
        (.ok product, after) ∧ product.datasets = ["elevation@PERMANENT"] := ⟨_, _, rfl, rfl⟩
  obtain ⟨-, leaveOut⟩ := (builtins_described builtIn boxValues (.new (.sequential 1))).1
    product after called
  have found : boxEntry.description.parameter? "ewres" =
      some (.new "ewres" "Resolution of the region (ewres)" FilterBbox.number false) := rfl
  obtain ⟨other, left, fewer, same⟩ := leaveOut _ (List.mem_of_find?_eq_some found) rfl
  exact ⟨builtIn, product, after, other, left, called, datasets, fewer, same⟩

end Process

end GeoChain
