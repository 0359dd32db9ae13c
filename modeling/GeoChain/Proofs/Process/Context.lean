import GeoChain.Proofs.Catalog.Resolved
import GeoChain.Proofs.Compile.Location
import GeoChain.Proofs.Compile.Numbering

/-!
# What a call does to its context

A call takes from its context one step id for each of its commands, in their order. Only `get_data`
notes a location, and only when nothing is left that can fail. Any other call leaves the locations
as they are, and so does every call that fails, even if it drew an id before it failed.
-/

namespace GeoChain

/-- The commands have the ids that a sequential source hands out from a number on, one after the
other, and the source goes on behind them. -/
structure Numbers (lead : String) (next : Nat) (commands : List Command) (after : IdSource) :
    Prop where
  advanced : after = .sequential (next + commands.length)
  ids : ∀ k command, commands[k]? = some command →
    command.id = lead ++ "_" ++ toString (next + k)
  handedOut : ∀ locations,
    ((List.replicate commands.length lead).mapM Emission.nextStepId).execute
      ⟨locations, .sequential next⟩ = (.ok (commands.map (·.id)), ⟨locations, after⟩)

theorem Draft.numbers (made : Draft) (locations : List String) (next : Nat) :
    Numbers made.lead next (made.product (.sequential next)).commands
      (made.after ⟨locations, .sequential next⟩).ids := by
  have length : (made.product (.sequential next)).commands.length = made.commands.length :=
    length_number _ _ _
  have ids : (made.product (.sequential next)).commands.map (·.id) =
      IdSource.stepIds (List.replicate made.commands.length made.lead) (.sequential next) :=
    IdSource.stepIds_number _ _ _
  refine ⟨?_, ?_, ?_⟩
  · rw [length]
    exact IdSource.advanceBy_sequential next _
  · intro k command placed
    have inside : k < made.commands.length := by
      obtain ⟨within, -⟩ := List.getElem?_eq_some_iff.mp placed
      omega
    have named := congrArg (fun texts => texts[k]?) ids
    simp only [List.getElem?_map, placed, Option.map_some, IdSource.getElem?_stepIds,
      List.getElem?_replicate, inside, if_true, Option.some.injEq] at named
    exact named
  · intro others
    rw [length, ids, Emission.execute_draws, List.length_replicate]
    rfl

section

variable {emitter : Emitter} {draft : Arguments → String → Except CompileError Draft}
  {arguments : Arguments} {locations : List String} {next : Nat} {product : Product}
  {after : Context} {lead : String}

theorem Emitter.Follows.numbers (follows : emitter.Follows draft)
    (leads : ∀ stepId, Draft.Leads lead (draft arguments stepId))
    (called : (emitter arguments).execute ⟨locations, .sequential next⟩ = (.ok product, after)) :
    Numbers lead next product.commands after.ids := by
  obtain ⟨made, drafted, rfl, rfl⟩ := follows.made called
  rw [← leads _ made drafted]
  exact made.numbers locations next

end

namespace Process

namespace Drafts

variable {entry : Entry} {draft : Arguments → Except CompileError Draft}

theorem loads (drafts : Drafts entry draft) (same : entry.id.text = GetData.name) :
    entry.emitter = GetData.emit := by
  cases drafts with
  | getData => rfl
  | filterBbox | filterDaterange | minTime | ndvi | rasterExporter | zonalStatistics
  | udfReduceTime => exact absurd same (by decide)

theorem unlocated (drafts : Drafts entry draft) (apart : entry.id.text ≠ GetData.name)
    {arguments : Arguments} {made : Draft} (drafted : draft arguments = .ok made) :
    made.location = none := by
  cases drafts with
  | getData => exact absurd rfl apart
  | filterBbox => exact (FilterBbox.draft_needsData drafted).unlocated
  | filterDaterange => exact (FilterDaterange.draft_needsData drafted).unlocated
  | minTime => exact (MinTime.draft_needsData drafted).unlocated
  | ndvi => exact (Ndvi.draft_needsData drafted).unlocated
  | rasterExporter => exact (RasterExporter.draft_needsData drafted).unlocated
  | zonalStatistics => exact (ZonalStatistics.draft_needsData drafted).unlocated
  | udfReduceTime => exact (UdfReduceTime.draft_needsData drafted).unlocated

end Drafts

end Process

end GeoChain
