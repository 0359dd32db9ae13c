import GeoChain.Process.Builtin
import GeoChain.Proofs.Catalog.Schema
import GeoChain.Proofs.Graph.ProcessId

/-!
# Catalog records on the wire

Modules and descriptions are read back from what is written for them if the schemas in them are in
key order. In a module that was received they are, and the descriptions of a module hand its schemas
on. A module that was read from a text is within the bounds of the reader when it is written again.
-/

namespace GeoChain

open Json (Throughout Tidy Received Survives SurvivesAsText Legible Form Fits Shows)

namespace ModuleParameter

variable {parameter : ModuleParameter} {value : Json}

theorem accepted_of_read (read : ofJson? value = some parameter) :
    parameter.accepted = .empty ∨
      ∃ held ∈ value.children, ModuleSchema.ofJson? held = some parameter.accepted := by
  simp only [ofJson?, Option.bind_eq_bind, Option.bind_eq_some_iff] at read
  obtain ⟨name, -, description, -, isOptional, -, accepted, field, same⟩ := read
  cases same
  exact Json.defaulted?_eq_some field

theorem proper_of_received (received : Received ofJson? parameter) : parameter.accepted.Proper := by
  obtain ⟨value, tidy, read⟩ := received
  rcases accepted_of_read read with missing | ⟨held, inside, readHeld⟩
  · rw [missing]
    exact ModuleSchema.proper_empty
  · exact ModuleSchema.proper_of_read (Json.throughout_hereditary Tidy tidy inside) readHeld

/-- What the schema of a parameter keeps fits as it did in the value that it was read from. -/
theorem fits_of_read {bound : Nat} (fits : Fits (bound + 2) value)
    (read : ofJson? value = some parameter) :
    ∀ entry ∈ parameter.accepted.others, Fits bound entry.2 := by
  rcases accepted_of_read read with missing | ⟨held, inside, readHeld⟩
  · rw [missing]
    exact List.forall_mem_nil _
  · intro entry member
    exact (fits.child inside).child (ModuleSchema.others_inside readHeld entry member)

theorem survives (proper : parameter.accepted.Proper) : Survives toJson ofJson? parameter := by
  intro f form
  have shows : Shows f ["name", "description", "optional", "schema"] _ (f parameter.toJson) :=
    form.rearranges.record (.consOf (.consOf (.consOf (.consOf .nil)))) (by decide)
  have text := @Json.readsBack_text f form.rearranges
  rw [ofJson?, shows.required? "name" (text parameter.name) (by simp),
    shows.given? "description" "" (text parameter.description) (by simp),
    shows.given? "optional" false (Json.bool?_form form parameter.isOptional) (by simp),
    shows.given? "schema" .empty (proper.survives f form) (by simp)]
  rfl

theorem toJson_fits {bound : Nat} (fits : ∀ entry ∈ parameter.accepted.others, Fits bound entry.2) :
    Fits (bound + 2) parameter.toJson :=
  .record (.consOf (.text _) (.consOf (.text _) (.consOf (.bool _)
    (.consOf (ModuleSchema.toJson_fits fits) .nil))))

end ModuleParameter

namespace Parameter

variable {parameter : Parameter}

theorem survives (ordered : parameter.accepted.inKeyOrder = parameter.accepted) :
    Survives toJson ofJson? parameter := by
  intro f form
  have shows : Shows f ["name", "description", "schema", "required"] _ (f parameter.toJson) :=
    form.rearranges.record (.consOf (.consOf (.consOf (.consOf .nil)))) (by decide)
  have text := @Json.readsBack_text f form.rearranges
  have accepted : Json.some? (f parameter.accepted) = some parameter.accepted :=
    congrArg some (form.apply_eq_self ordered)
  rw [ofJson?, shows.required? "name" (text parameter.name) (by simp),
    shows.required? "description" (text parameter.description) (by simp),
    shows.required? "schema" accepted (by simp),
    shows.required? "required" (Json.bool?_form form parameter.required) (by simp)]
  rfl

theorem toJson_fits {bound : Nat} (fits : Fits bound parameter.accepted) :
    Fits (bound + 1) parameter.toJson :=
  .record (.consOf (.text _) (.consOf (.text _) (.consOf fits (.consOf (.bool _) .nil))))

end Parameter

namespace Returned

variable {returned : Returned}

theorem survives (ordered : returned.accepted.inKeyOrder = returned.accepted) :
    Survives toJson ofJson? returned := by
  intro f form
  have shows : Shows f ["description", "schema"] _ (f returned.toJson) :=
    form.rearranges.record (.consOf (.consOf .nil)) (by decide)
  have accepted : Json.some? (f returned.accepted) = some returned.accepted :=
    congrArg some (form.apply_eq_self ordered)
  rw [ofJson?, shows.required? "description"
      (Json.readsBack_text form.rearranges returned.description) (by simp),
    shows.required? "schema" accepted (by simp)]
  rfl

theorem toJson_fits {bound : Nat} (fits : Fits bound returned.accepted) :
    Fits (bound + 1) returned.toJson :=
  .record (.consOf (.text _) (.consOf fits .nil))

end Returned

namespace Description

variable {described : Description}

/-- The schemas that a description states: what is returned, and what the parameters accept. -/
def schemas (described : Description) : List Json :=
  described.returned.accepted :: described.parameters.map (·.accepted)

theorem readId?_text (id : ProcessId) : readId? (.string id.text) = some id := by
  rw [readId?, Json.text?, Option.bind_some, ProcessId.read_eq_ok.mpr rfl]
  rfl

theorem survives (ordered : ∀ accepted ∈ described.schemas, accepted.inKeyOrder = accepted) :
    Survives toJson ofJson? described := by
  intro f form
  obtain ⟨made, given⟩ := List.forall_mem_cons.mp ordered
  have shows : Shows f ["process_id", "summary", "description", "parameters", "returns"] _
      (f described.toJson) :=
    form.rearranges.record (.consOf (.consIf (.consOf (.consOf (.consOf .nil))))) (by decide)
  have id : readId? (f (.string described.id.text)) = some described.id := by
    rw [form.rearranges.flat _ rfl, readId?_text]
  have parameters := Survives.items (fun parameter member =>
    Parameter.survives (List.forall_mem_map.mp given parameter member)) form
  rw [ofJson?, shows.required? "process_id" id (by simp),
    shows.optional? "summary" described.summary Json.readsBack_text rfl (by simp),
    shows.required? "description" (Json.readsBack_text form.rearranges described.description)
      (by simp),
    shows.given? "parameters" [] parameters (by simp),
    shows.given? "returns" .standard (Returned.survives made f form) (by simp)]
  rfl

theorem toJson_fits {bound : Nat} (fits : ∀ accepted ∈ described.schemas, Fits bound accepted) :
    Fits (bound + 3) described.toJson := by
  obtain ⟨made, given⟩ := List.forall_mem_cons.mp fits
  have parameters : Fits (bound + 2) (.array (described.parameters.map Parameter.toJson)) :=
    .array (List.forall_mem_map.mpr fun parameter member =>
      Parameter.toJson_fits (List.forall_mem_map.mp given parameter member))
  have returned : Fits (bound + 2) described.returned.toJson :=
    (Returned.toJson_fits made).mono (Nat.le_succ _)
  exact .record (.consOf (.text _) (.consIf .text (.consOf (.text _) (.consOf parameters
    (.consOf returned .nil)))))

end Description

namespace Process

theorem builtins_schemas : ∀ entry ∈ builtins, ∀ accepted ∈ entry.description.schemas,
    accepted.inKeyOrder = accepted ∧ accepted.holdsTexts := by
  decide

theorem builtins_survive {entry : Entry} (builtIn : entry ∈ builtins) :
    Survives Description.toJson Description.ofJson? entry.description ∧
      SurvivesAsText Description.toJson Description.ofJson? entry.description := by
  have stated := builtins_schemas entry builtIn
  have survives : Survives Description.toJson Description.ofJson? entry.description :=
    Description.survives fun accepted member => (stated accepted member).1
  have fits : Fits 4 entry.description.toJson :=
    Description.toJson_fits fun accepted member =>
      Json.fits_of_holdsTexts (stated accepted member).2
  exact ⟨survives, survives.asText (fits.mono (by decide))⟩

end Process

namespace Module

variable {module : Module} {value : Json}

theorem survives (proper : ∀ parameter ∈ module.parameters ++ module.returns,
    parameter.accepted.Proper) : Survives toJson ofJson? module := by
  intro f form
  obtain ⟨parameters, returns⟩ := List.forall_mem_append.mp proper
  have shows : Shows f ["id", "description", "categories", "parameters", "returns"] _
      (f module.toJson) :=
    form.rearranges.record (.consOf (.consOf (.consOf (.consOf (.consOf .nil))))) (by decide)
  have text := @Json.readsBack_text f form.rearranges
  have categories := Json.readsBack_text.items form.rearranges module.categories
  have given := Survives.items (fun parameter member =>
    ModuleParameter.survives (parameters parameter member)) form
  have made := Survives.items (fun output member =>
    ModuleParameter.survives (returns output member)) form
  rw [ofJson?, shows.required? "id" (text module.id) (by simp),
    shows.given? "description" "" (text module.description) (by simp),
    shows.given? "categories" [] categories (by simp [Json.ofStrings]),
    shows.given? "parameters" [] given (by simp),
    shows.given? "returns" [] made (by simp)]
  rfl

theorem parameter_of_read (read : ofJson? value = some module) {parameter : ModuleParameter}
    (member : parameter ∈ module.parameters ++ module.returns) :
    ∃ list ∈ value.children, ∃ item ∈ list.children,
      ModuleParameter.ofJson? item = some parameter := by
  simp only [ofJson?, Option.bind_eq_bind, Option.bind_eq_some_iff] at read
  obtain ⟨id, -, description, -, categories, -, parameters, given, returns, made, same⟩ := read
  cases same
  rcases List.mem_append.mp member with parameter | output
  · exact Json.item_of_defaulted? given parameter
  · exact Json.item_of_defaulted? made output

theorem received_parameter (received : Received ofJson? module) {parameter : ModuleParameter}
    (member : parameter ∈ module.parameters ++ module.returns) :
    Received ModuleParameter.ofJson? parameter := by
  obtain ⟨value, tidy, read⟩ := received
  obtain ⟨list, inside, item, within, readItem⟩ := parameter_of_read read member
  have listed := Json.throughout_hereditary Tidy tidy inside
  exact ⟨item, Json.throughout_hereditary Tidy listed within, readItem⟩

theorem toJson_fits {bound : Nat} (fits : ∀ parameter ∈ module.parameters ++ module.returns,
    ∀ entry ∈ parameter.accepted.others, Fits bound entry.2) : Fits (bound + 4) module.toJson := by
  obtain ⟨parameters, returns⟩ := List.forall_mem_append.mp fits
  have given : Fits (bound + 3) (.array (module.parameters.map ModuleParameter.toJson)) :=
    .array (List.forall_mem_map.mpr fun parameter member =>
      ModuleParameter.toJson_fits (parameters parameter member))
  have made : Fits (bound + 3) (.array (module.returns.map ModuleParameter.toJson)) :=
    .array (List.forall_mem_map.mpr fun output member =>
      ModuleParameter.toJson_fits (returns output member))
  exact .record (.consOf (.text _) (.consOf (.text _) (.consOf (.items .text) (.consOf given
    (.consOf made .nil)))))

/-- A description of a module states a raster cube or the schema of a parameter or an output. -/
theorem mem_schemas_describe {id : ProcessId} {summary : String} {outputs : List ModuleParameter}
    {accepted : Json} (member : accepted ∈ (module.describe id summary outputs).schemas) :
    accepted = rasterCube ∨
      ∃ parameter ∈ module.parameters ++ outputs, accepted = parameter.accepted.described := by
  rcases List.mem_cons.mp member with returned | given
  · match outputs with
    | [] => exact .inl returned
    | [output] => exact .inr ⟨output, List.mem_append_right _ List.mem_cons_self, returned⟩
    | _ :: _ :: _ => exact .inl returned
  · obtain ⟨stated, among, same⟩ := List.mem_map.mp given
    obtain ⟨parameter, declared, rfl⟩ := List.mem_map.mp among
    exact .inr ⟨parameter, List.mem_append_left _ declared, same.symm⟩

section

variable {id : ProcessId} {summary : String} {outputs : List ModuleParameter}

theorem describe_survives (proper : ∀ parameter ∈ module.parameters ++ outputs,
    parameter.accepted.Proper) :
    Survives Description.toJson Description.ofJson? (module.describe id summary outputs) := by
  refine Description.survives fun accepted member => ?_
  rcases mem_schemas_describe member with raster | ⟨parameter, among, same⟩
  · rw [raster]
    rfl
  · rw [same]
    exact (proper parameter among).described_ordered

theorem describe_fits {bound : Nat} (fits : ∀ parameter ∈ module.parameters ++ outputs,
    ∀ entry ∈ parameter.accepted.others, Fits bound entry.2) :
    Fits (bound + 4) (module.describe id summary outputs).toJson := by
  refine Description.toJson_fits fun accepted member => ?_
  rcases mem_schemas_describe member with raster | ⟨parameter, among, same⟩
  · rw [raster]
    exact rasterCube_fits
  · rw [same]
    exact ModuleSchema.described_fits (fits parameter among)

end

theorem proper_of_received (received : Received ofJson? module) :
    ∀ parameter ∈ module.parameters ++ module.returns, parameter.accepted.Proper :=
  fun _ member => ModuleParameter.proper_of_received (received_parameter received member)

/-- What the schemas of a module keep fits as it did in the text that the module was read from. -/
theorem fits_of_read? {text : String} (readValue : Json.read? text = some value)
    (legible : value.Legible) (read : ofJson? value = some module) :
    ∀ parameter ∈ module.parameters ++ module.returns,
      ∀ entry ∈ parameter.accepted.others, Fits 123 entry.2 := by
  -- The module, the list, the parameter and its schema take one level of the 127 each.
  have fits : Fits (123 + 4) value := Json.fits_of_read? readValue legible
  intro parameter member
  obtain ⟨list, inside, item, within, readItem⟩ := parameter_of_read read member
  exact ModuleParameter.fits_of_read ((fits.child inside).child within) readItem

/-- What holds of the parameters and the outputs of a module holds of what it is described by for
one output. -/
theorem forall_mem_output {P : ModuleParameter → Prop} {output : ModuleParameter}
    (all : ∀ parameter ∈ module.parameters ++ module.returns, P parameter) (here : P output) :
    ∀ parameter ∈ module.parameters ++ [output], P parameter :=
  List.forall_mem_append.mpr
    ⟨(List.forall_mem_append.mp all).1, List.forall_mem_singleton.mpr here⟩

/-- A module that was received is read back from what is written for it. Clients are told a raster
cube for a schema whose subtype is one of the two of rasters, and any other schema as the backend
states it, without a type or a subtype that is `null`. The descriptions of the built-in processes
and of such modules and their outputs are read back as well. All this holds of texts, too, if the
floating-point numbers in a module are read back from theirs. -/
theorem records_survive :
    (∀ module, Received ofJson? module →
      Survives toJson ofJson? module ∧
      Survives Description.toJson Description.ofJson? module.described ∧
      ∀ output, output ∈ module.returns ∨ Received ModuleParameter.ofJson? output →
        Survives Description.toJson Description.ofJson? (module.describedFor output)) ∧
    (∀ members schema, Throughout Tidy (.object members) →
      ModuleSchema.ofJson? (.object members) = some schema → schema.described =
        if Keyed.find? "subtype" members ∈ [some (.string "cell"), some (.string "strds")]
        then rasterCube
        else .object (members.filter fun entry =>
          ¬ (entry.2 = .null ∧ entry.1 ∈ ["type", "subtype"]))) ∧
    (∀ entry ∈ Process.builtins,
      Survives Description.toJson Description.ofJson? entry.description ∧
      SurvivesAsText Description.toJson Description.ofJson? entry.description) ∧
    ∀ text value module, Json.read? text = some value → ofJson? value = some module →
      value.Legible →
        SurvivesAsText toJson ofJson? module ∧
        SurvivesAsText Description.toJson Description.ofJson? module.described ∧
        ∀ output ∈ module.returns,
          SurvivesAsText Description.toJson Description.ofJson? (module.describedFor output) := by
  refine ⟨?_, ?_, fun entry => Process.builtins_survive, ?_⟩
  · intro module received
    have proper := proper_of_received received
    refine ⟨survives proper, describe_survives proper, fun output declared => ?_⟩
    refine describe_survives (forall_mem_output proper ?_)
    rcases declared with returned | own
    · exact proper output (List.mem_append_right _ returned)
    · exact ModuleParameter.proper_of_received own
  · intro members schema tidy read
    exact ModuleSchema.described_of_read tidy read
  · intro text value module readValue read legible
    have proper := proper_of_received ⟨value, Json.read?_tidy readValue, read⟩
    have fits := fits_of_read? readValue legible read
    refine ⟨(survives proper).asText (toJson_fits fits),
      (describe_survives proper).asText (describe_fits fits), fun output returned => ?_⟩
    have among := List.mem_append_right module.parameters returned
    exact (describe_survives (forall_mem_output proper (proper output among))).asText
      (describe_fits (forall_mem_output fits (fits output among)))

/-- One and a half. -/
def scale : Double := ⟨false, 3 * Nat.pow 2 51, -52, by decide⟩

def scaledText : String := "\x7b\"id\":\"r.slope.aspect\",\"parameters\":[" ++
  "\x7b\"name\":\"zscale\"," ++
  "\"schema\":\x7b\"type\":\"number\",\"subtype\":null,\"default\":1.5\x7d\x7d]," ++
  "\"returns\":[\x7b\"name\":\"slope\",\"schema\":\x7b\"subtype\":\"cell\"\x7d\x7d," ++
  "\x7b\"name\":\"aspect\"\x7d]\x7d"

def scaledJson : Json := .object [
  ("id", .string "r.slope.aspect"),
  ("parameters", .array [.object [
    ("name", .string "zscale"),
    ("schema", .object [
      ("default", .float scale), ("subtype", .null), ("type", .string "number")])]]),
  ("returns", .array [
    .object [("name", .string "slope"), ("schema", .object [("subtype", .string "cell")])],
    .object [("name", .string "aspect")]])]

def slopeOutput : ModuleParameter := ⟨"slope", "", false, ⟨none, some "cell", []⟩⟩

def scaled : Module := ⟨"r.slope.aspect", "", [],
  [⟨"zscale", "", false, ⟨some "number", none, [("default", .float scale)]⟩⟩],
  [slopeOutput, ⟨"aspect", "", false, .empty⟩]⟩

theorem scaledJson_legible : scaledJson.Legible := by
  have readScale : Json.read? scale.jsonText = some (.float scale) := by decide +kernel
  have number : (Json.float scale).Legible :=
    Json.legible_of_scalar rfl fun _ same => Json.float.inj same ▸ readScale
  have text : ∀ text, (Json.string text).Legible := fun _ => Json.legible_of_scalar rfl (by simp)
  have null : Json.null.Legible := Json.legible_of_scalar rfl (by simp)
  simp [scaledJson, Json.legible_object, Json.legible_array, number, text, null]

/-- The module comes back from its text, and clients are not told of the subtype that is `null`. -/
theorem scaled_survives :
    Json.read? scaledText = some scaledJson ∧ ofJson? scaledJson = some scaled ∧
    scaledJson.Legible ∧ ofJson? scaled.toJson.inKeyOrder = some scaled ∧
    SurvivesAsText toJson ofJson? scaled ∧
    SurvivesAsText Description.toJson Description.ofJson? scaled.described ∧
    SurvivesAsText Description.toJson Description.ofJson? (scaled.describedFor slopeOutput) ∧
    ModuleSchema.described ⟨some "number", none, [("default", .float scale)]⟩ =
      .object [("default", .float scale), ("type", .string "number")] := by
  obtain ⟨modules, schemas, -, texts⟩ := records_survive
  have readValue : Json.read? scaledText = some scaledJson := by decide +kernel
  have read : ofJson? scaledJson = some scaled := rfl
  have tidy := Json.read?_tidy readValue
  obtain ⟨survives, -⟩ := modules scaled ⟨scaledJson, tidy, read⟩
  obtain ⟨module, described, outputs⟩ := texts scaledText scaledJson scaled readValue read
    scaledJson_legible
  have output : SurvivesAsText Description.toJson Description.ofJson?
      (scaled.describedFor slopeOutput) := outputs slopeOutput List.mem_cons_self
  have parameters := Json.throughout_hereditary Tidy tidy (.tail _ (.head _))
  have zscale := Json.throughout_hereditary Tidy parameters (.head _)
  have number := Json.throughout_hereditary Tidy zscale (.tail _ (.head _))
  exact ⟨readValue, read, scaledJson_legible, survives _ .ordered, module, described, output,
    schemas _ _ number rfl⟩

end Module

end GeoChain
