import GeoChain.Chain.Wire
import GeoChain.Proofs.Json.Record

/-!
# Chains survive the wire

Commands, chains and plans are read back from what is written for them. Empty lists and absent
options are left out of their records, at every level, and come back as what they were.
-/

namespace GeoChain

open Json (ReadsBack Fits Shows Lossless)

theorem DataKind.readsBack : ReadsBack toJson ofJson? := by
  intro f rearranges kind
  rw [toJson, rearranges.flat _ rfl]
  cases kind with
  | raster | vector | file => rfl

theorem Import.readsBack : ReadsBack toJson ofJson? := by
  intro f rearranges imported
  have shows : Shows f ["type", "source"] _ (f imported.toJson) :=
    rearranges.record (.consOf (.consOf .nil)) (by decide)
  rw [ofJson?, shows.required? "type" (DataKind.readsBack rearranges imported.kind) (by simp),
    shows.required? "source" (Json.readsBack_text rearranges imported.source) (by simp)]
  rfl

theorem Export.readsBack : ReadsBack toJson ofJson? := by
  intro f rearranges exported
  have shows : Shows f ["type", "format"] _ (f exported.toJson) :=
    rearranges.record (.consOf (.consOf .nil)) (by decide)
  rw [ofJson?, shows.required? "type" (DataKind.readsBack rearranges exported.kind) (by simp),
    shows.required? "format" (Json.readsBack_text rearranges exported.format) (by simp)]
  rfl

theorem Input.readsBack : ReadsBack toJson ofJson? := by
  intro f rearranges input
  have shows : Shows f ["param", "value", "import_descr"] _ (f input.toJson) :=
    rearranges.record (.consOf (.consOf (.consIf .nil))) (by decide)
  rw [ofJson?, shows.required? "param" (Json.readsBack_text rearranges input.param) (by simp),
    shows.required? "value" (Json.readsBack_text rearranges input.value) (by simp),
    shows.optional? "import_descr" input.imported Import.readsBack rfl (by simp)]
  rfl

theorem Output.readsBack : ReadsBack toJson ofJson? := by
  intro f rearranges output
  have shows : Shows f ["param", "value", "export"] _ (f output.toJson) :=
    rearranges.record (.consOf (.consOf (.consIf .nil))) (by decide)
  rw [ofJson?, shows.required? "param" (Json.readsBack_text rearranges output.param) (by simp),
    shows.required? "value" (Json.readsBack_text rearranges output.value) (by simp),
    shows.optional? "export" output.exported Export.readsBack rfl (by simp)]
  rfl

theorem Command.readsBack : ReadsBack toJson ofJson? := by
  intro f rearranges command
  have shows : Shows f ["id", "module", "inputs", "outputs", "flags"] _ (f command.toJson) :=
    rearranges.record (.consOf (.consOf (.consItems (.consItems (.consIf .nil))))) (by decide)
  rw [ofJson?, shows.required? "id" (Json.readsBack_text rearranges command.id) (by simp),
    shows.required? "module" (Json.readsBack_text rearranges command.module) (by simp),
    shows.defaulted? "inputs" command.inputs Input.readsBack (by simp),
    shows.defaulted? "outputs" command.outputs Output.readsBack (by simp),
    shows.optional? "flags" command.flags Json.readsBack_text rfl (by simp)]
  rfl

theorem Chain.readsBack : ReadsBack toJson ofJson? := by
  intro f rearranges chain
  have shows : Shows f ["list", "version"] _ (f chain.toJson) :=
    rearranges.record (.consOf (.consOf .nil)) (by decide)
  have commands := ReadsBack.items Command.readsBack rearranges chain.commands
  rw [ofJson?, shows.required? "list" commands (by simp),
    shows.required? "version" (Json.readsBack_text rearranges chain.version) (by simp)]
  rfl

theorem Plan.readsBack : ReadsBack toJson ofJson? := by
  intro f rearranges plan
  have shows : Shows f ["location", "output_ids", "commands"] _ (f plan.toJson) :=
    rearranges.record (.consOf (.consOf (.consOf .nil))) (by decide)
  have outputs := ReadsBack.items Json.readsBack_text rearranges plan.outputs
  have commands := ReadsBack.items Command.readsBack rearranges plan.commands
  rw [ofJson?,
    shows.required? "location" (Json.readsBack_text rearranges plan.location) (by simp),
    shows.required? "output_ids" outputs (by simp [Json.ofStrings]),
    shows.required? "commands" commands (by simp)]
  rfl

theorem DataKind.fits (kind : DataKind) : Fits 0 kind.toJson := .text kind.text

theorem Import.fits (imported : Import) : Fits 1 imported.toJson :=
  .record (.consOf imported.kind.fits (.consOf (.text _) .nil))

theorem Export.fits (exported : Export) : Fits 1 exported.toJson :=
  .record (.consOf exported.kind.fits (.consOf (.text _) .nil))

theorem Input.fits (input : Input) : Fits 2 input.toJson :=
  .record (.consOf (.text _) (.consOf (.text _) (.consIf Import.fits .nil)))

theorem Output.fits (output : Output) : Fits 2 output.toJson :=
  .record (.consOf (.text _) (.consOf (.text _) (.consIf Export.fits .nil)))

theorem Command.fits (command : Command) : Fits 4 command.toJson :=
  .record (.consOf (.text _) (.consOf (.text _) (.consItems Input.fits (.consItems Output.fits
    (.consIf .text .nil)))))

theorem Chain.fits (chain : Chain) : Fits 6 chain.toJson :=
  .record (.consOf (.items Command.fits) (.consOf (.text _) .nil))

theorem Plan.fits (plan : Plan) : Fits 6 plan.toJson :=
  .record (.consOf (.text _) (.consOf (.items .text) (.consOf (.items Command.fits) .nil)))

/-- No command, chain or plan loses anything on the wire, so no two of them are written alike, and
the chain of a plan that is read back is the chain of the plan. -/
theorem Plan.wire_lossless :
    Lossless Command.toJson Command.ofJson? ∧ Lossless Chain.toJson Chain.ofJson? ∧
      Lossless toJson ofJson? ∧
    (Function.Injective fun command : Command => command.toJson.inKeyOrder) ∧
    (Function.Injective fun chain : Chain => chain.toJson.inKeyOrder) ∧
    (Function.Injective fun plan : Plan => plan.toJson.inKeyOrder) ∧
    ∀ plan : Plan, (ofJson? plan.toJson.inKeyOrder).map Plan.chain = some plan.chain := by
  have commands : Lossless Command.toJson Command.ofJson? :=
    ReadsBack.lossless Command.readsBack Command.fits (by decide)
  have chains : Lossless Chain.toJson Chain.ofJson? :=
    ReadsBack.lossless Chain.readsBack Chain.fits (by decide)
  have plans : Lossless toJson ofJson? := ReadsBack.lossless readsBack fits (by decide)
  refine ⟨commands, chains, plans, commands.injective, chains.injective, plans.injective, ?_⟩
  intro plan
  rw [plans.value, Option.map_some]

example : Command.ofJson? (.object [("module", .string "g.region"), ("id", .string "step")]) =
    some (.new "step" "g.region") := rfl

end GeoChain
