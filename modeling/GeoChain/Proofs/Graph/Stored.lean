import GeoChain.Compile.Compiler
import GeoChain.Graph.Stored
import GeoChain.Process.Builtin
import GeoChain.Proofs.Graph.Textual
import GeoChain.Proofs.Json.Record
import GeoChain.Proofs.Uuid

/-!
# Stored graphs through text

The record of a stored graph takes one level of nesting more than that of the graph in it. Within
the bound of the reader a stored graph is read back from its text. A text may nest its nodes less
deeply than the record that is written for them, so not every graph that is read and compiles can be
stored and read back.
-/

namespace GeoChain

open Json (Throughout Tidy Printable)

theorem GraphId.afterLead?_append (lead rest : List Char) :
    afterLead? lead (lead ++ rest) = some rest := by
  induction lead with
  | nil => rfl
  | cons c lead ih => rw [List.cons_append, afterLead?, if_pos rfl, ih]

theorem GraphId.read_text (id : GraphId) : GraphId.read id.text = .ok id := by
  have chars : id.text.toList = lead.toList ++ id.uuid.hyphenated := by
    rw [text, String.toList_append, Uuid.text, String.toList_ofList]
  rw [read, chars, afterLead?_append]
  simp only [Uuid.ofChars?_hyphenated]

namespace StoredGraph

variable {stored : StoredGraph} {value : Json}

/-- A stored graph that is read from a text. -/
def readText? (text : String) : Option StoredGraph := (Json.read? text).bind ofJson?

theorem ofJson?_inKeyOrder (textual : stored.graph.Textual) :
    ofJson? stored.toJson.inKeyOrder = some stored := by
  have shows : Json.Shows Json.inKeyOrder ["id", "title", "description", "process_graph"] _
      stored.toJson.inKeyOrder :=
    Json.rearranges_inKeyOrder.record (.consOf (.consIf (.consIf (.consOf .nil)))) (by decide)
  have id : GraphId.ofJson? (Json.string stored.id.text).inKeyOrder = some stored.id := by
    rw [Json.inKeyOrder, GraphId.ofJson?, Json.text?, Option.bind_some, GraphId.read_text]
    rfl
  have graph : (Node.ofJson stored.graph.toJson.inKeyOrder).toOption = some stored.graph := by
    rw [textual.ofJson_inKeyOrder]
    rfl
  rw [ofJson?, shows.required? "id" id (by simp),
    shows.optional? "title" stored.title Json.readsBack_text rfl (by simp),
    shows.optional? "description" stored.description Json.readsBack_text rfl (by simp),
    shows.required? "process_graph" graph (by simp)]
  rfl

theorem nesting_toJson (stored : StoredGraph) :
    stored.toJson.nesting = stored.graph.toJson.nesting + 1 := by
  obtain ⟨id, title, description, graph⟩ := stored
  cases title <;> cases description <;>
    simp [toJson, Json.record, Json.fieldOf, Json.fieldIf, Json.nesting, Json.nestingMembers]

theorem textual_of_ofJson? (tidy : Throughout Tidy value) (reads : ofJson? value = some stored) :
    stored.graph.Textual := by
  simp only [ofJson?, Option.bind_eq_bind, Option.bind_eq_some_iff] at reads
  obtain ⟨id, -, title, -, description, -, graph, required, same⟩ := reads
  cases same
  obtain ⟨held, found, read⟩ := Option.bind_eq_some_iff.mp required
  cases value with
  | object members =>
    have inside := (Json.throughout_object.mp tidy).2 _ (Keyed.mem_of_find? found)
    exact Node.textual_of_ofJson inside (Outcome.toOption_eq_some.mp read)
  | null | bool | int | float | string | array => cases found

theorem toJson_printable (graph : Throughout Printable stored.graph.toJson) :
    Throughout Printable stored.toJson :=
  (Json.Fits.record (.consOf (.text _) (.consIf .text (.consIf .text
    (.consOf ⟨graph, Nat.le_refl _⟩ .nil))))).printable

/-- The record of a stored graph is read back as far as the bound allows. -/
theorem readText?_toJson (textual : stored.graph.Textual)
    (printable : Throughout Printable stored.graph.toJson) :
    readText? stored.toJson.compact =
      if stored.graph.toJson.nesting < Json.maxNesting then some stored else none := by
  rw [readText?, Json.read?_compact (toJson_printable printable), nesting_toJson]
  by_cases within : stored.graph.toJson.nesting < Json.maxNesting
  · rw [if_pos within, if_pos (Nat.succ_le_of_lt within), Option.bind_some,
      ofJson?_inKeyOrder textual]
  · rw [if_neg within, if_neg (fun succ => within (Nat.lt_of_succ_le succ)), Option.bind_none]

/-- What was read from a text and is written again is read back if its record nests no more arrays
and objects than the reader allows, and refused otherwise. A graph can be stored if its record is
nested less deeply, which it is if the text that it was read from nests at most 63. -/
theorem compact_read_back :
    (∀ text node, Node.readText? text = some node → node.Legible →
      Node.readText? node.toJson.compact =
        if node.toJson.nesting ≤ Json.maxNesting then some node else none) ∧
    (∀ text stored, readText? text = some stored → stored.graph.Legible →
      readText? stored.toJson.compact =
        if stored.toJson.nesting ≤ Json.maxNesting then some stored else none) ∧
    (∀ text node id title description, Node.readText? text = some node → node.Legible →
      readText? (toJson ⟨id, title, description, node⟩).compact =
        if node.toJson.nesting < Json.maxNesting then some ⟨id, title, description, node⟩
        else none) ∧
    ∀ value node, Node.ofJson value = .ok node → value.nesting ≤ 63 →
      node.toJson.nesting < Json.maxNesting := by
  refine ⟨?_, ?_, ?_, ?_⟩
  · intro text node read legible
    have textual := Node.textual_of_readText? read
    exact textual.readText? (textual.printable legible)
  · intro text stored read legible
    obtain ⟨value, readValue, reads⟩ := Option.bind_eq_some_iff.mp read
    have textual := textual_of_ofJson? (Json.read?_tidy readValue) reads
    rw [readText?_toJson textual (textual.printable legible), nesting_toJson]
    rfl
  · intro text node id title description read legible
    have textual := Node.textual_of_readText? read
    exact readText?_toJson textual (textual.printable legible)
  · intro value node reads shallow
    have bound := Node.nesting_toJson reads
    rw [Json.maxNesting]
    omega

/-- One half. -/
def half : Double := ⟨false, Nat.pow 2 52, -53, by decide⟩

def scaledText : String := "\x7b\"process_id\":\"get_data\",\"scale\":0.5\x7d"

def scaled : Node :=
  (Node.new (.sanitize "get_data")).withArgument "scale" (.literal (.float half))

theorem scaled_legible : scaled.Legible := by
  have printable : Throughout Printable
      (.object [("process_id", .string "get_data"), ("scale", .float half)]) := by
    have readHalf : Json.read? half.jsonText = some (.float half) := by decide +kernel
    refine Json.throughout_object.mpr ⟨trivial, List.forall_mem_cons.mpr ⟨?_, ?_⟩⟩
    · exact Json.throughout_scalar trivial rfl
    · exact List.forall_mem_singleton.mpr (Json.throughout_scalar readHalf rfl)
  exact Node.legible_of_ofJson rfl fun x holds => printable _ holds

/-- The same graph, stored under an identifier without hyphens. -/
def storedText : String := "\x7b\"id\":\"user-graph::00000000000000000000000000000001\"," ++
  "\"process_graph\":\x7b\"process_id\":\"get_data\",\"scale\":0.5\x7d\x7d"

theorem scaled_read_back :
    Node.readText? scaledText = some scaled ∧ readText? storedText = some (new ⟨⟨1⟩⟩ scaled) ∧
    Node.readText? scaled.toJson.compact = some scaled ∧
    readText? (new ⟨⟨1⟩⟩ scaled).toJson.compact = some (new ⟨⟨1⟩⟩ scaled) ∧
    readText? ((new ⟨⟨2⟩⟩ scaled).withTitle "scaled").toJson.compact =
      some ((new ⟨⟨2⟩⟩ scaled).withTitle "scaled") := by
  have read : Node.readText? scaledText = some scaled := by decide +kernel
  have load : readText? storedText = some (new ⟨⟨1⟩⟩ scaled) := by decide +kernel
  obtain ⟨graphs, records, stored, shallow⟩ := compact_read_back
  have small := shallow (.object [("process_id", .string "get_data"), ("scale", .float half)])
    scaled rfl (by decide)
  refine ⟨read, load, ?_, ?_, ?_⟩
  · rw [graphs scaledText scaled read scaled_legible, if_pos (Nat.le_of_lt small)]
  · rw [records storedText (new ⟨⟨1⟩⟩ scaled) load scaled_legible, if_pos (by decide)]
  · have back := stored scaledText scaled ⟨⟨2⟩⟩ (some "scaled") none read scaled_legible
    rwa [if_pos small] at back

/-- One layer with exporters on top of each other, each given beside the process of the next. -/
def exportersJson : Nat → Json
  | 0 => .object [
      ("data_id", .string "nc_spm.PERMANENT.raster.elevation"),
      ("process_id", .string "get_data")]
  | n + 1 => .object [
      ("imagery", exportersJson n),
      ("process_id", .string "raster_exporter")]

def exporters : Nat → Node
  | 0 => (Node.new (.sanitize "get_data")).withArgument "data_id"
      (.literal (.string "nc_spm.PERMANENT.raster.elevation"))
  | n + 1 => (Node.new (.sanitize "raster_exporter")).withArgument "imagery" (.node (exporters n))

theorem exportersJson_shaped (n : Nat) : (exportersJson n).NodeShaped := by
  cases n with
  | zero => exact .tail _ (.head _)
  | succ n => exact .tail _ (.head _)

theorem exporters_read (n : Nat) : Node.ofJson (exportersJson n) = .ok (exporters n) := by
  induction n with
  | zero => rfl
  | succ n ih =>
    exact Node.ofJson_object.mpr ⟨rfl, .inl rfl, .inl rfl, [("imagery", .node (exporters n))], [],
      .cons ⟨rfl, .node (exportersJson_shaped n) ih⟩ .nil, .nil, rfl⟩

theorem exportersJson_throughout {P : Json → Prop} (strings : ∀ text, P (.string text))
    (bottom : P (exportersJson 0)) (next : ∀ n, P (exportersJson (n + 1))) (n : Nat) :
    Throughout P (exportersJson n) := by
  have string : ∀ text, Throughout P (.string text) := fun text =>
    Json.throughout_scalar (strings text) rfl
  induction n with
  | zero =>
    exact Json.throughout_object.mpr ⟨bottom, by simp [string]⟩
  | succ n ih => exact Json.throughout_object.mpr ⟨next n, by simp [string, ih]⟩

theorem nesting_exportersJson (n : Nat) : (exportersJson n).nesting = n + 1 := by
  induction n with
  | zero => rfl
  | succ n ih => simp [exportersJson, Json.nesting, Json.nestingMembers, ih]

theorem nesting_exporters (n : Nat) : (exporters n).toJson.nesting = 2 * n + 2 := by
  induction n with
  | zero => rfl
  | succ n ih =>
    have record : (exporters (n + 1)).toJson = .object [
        ("process_id", .string "raster_exporter"),
        ("arguments", .object [("imagery", (exporters n).toJson)])] := rfl
    rw [record]
    simp only [Json.nesting, Json.nestingMembers, ih]
    omega

theorem exporters_node (n depth : Nat) (ids : IdSource) (within : depth + n ≤ 64) :
    ∃ commands later, Compiler.node ⟨Catalog.builtin, 64⟩ depth (exporters n) (.new ids) =
      (.ok ⟨["elevation@PERMANENT"], commands⟩, ⟨["nc_spm"], later⟩) := by
  induction n generalizing depth with
  | zero =>
    have shallow : ¬ 64 < depth := by omega
    refine ⟨[Process.GetData.command ((Context.new ids).stepId "get_data") "elevation@PERMANENT"
      .raster], ids.advance, ?_⟩
    rw [exporters, Node.new, Node.withArgument, Compiler.node, if_neg shallow]
    rfl
  | succ n ih =>
    have shallow : ¬ 64 < depth := by omega
    obtain ⟨commands, later, compiles⟩ := ih (depth + 1) (by omega)
    have resolved : Catalog.builtin.resolve (ProcessId.sanitize "raster_exporter").text =
        .ok Process.RasterExporter.emit := rfl
    refine ⟨commands ++ [Process.RasterExporter.command
      (Context.stepId "raster_exporter" ⟨["nc_spm"], later⟩) "elevation@PERMANENT"],
      later.advance, ?_⟩
    rw [exporters, Node.new, Node.withArgument, Compiler.node, if_neg shallow]
    simp only [resolved, Keyed.insert, Compiler.arguments, Compiler.argument, compiles,
      List.append_nil]
    rfl

theorem exportersJson_tidy (n : Nat) : Throughout Tidy (exportersJson n) := by
  have pair : ∀ {one other : String} {x y : Json}, one < other →
      Tidy (.object [(one, x), (other, y)]) := fun less => List.pairwise_pair.mpr less
  exact exportersJson_throughout (fun _ => trivial) (pair (by decide)) (fun _ => pair (by decide)) n

/-- A graph of 64 nodes is read from a text and compiles, but neither its record nor that of a
stored graph that holds it is read back. -/
theorem exporters_refused :
    Node.readText? (exportersJson 63).compact = some (exporters 63) ∧
    (∃ plan, Compiler.compile ⟨Catalog.builtin, Config.standard.maxDepth⟩
      (Config.standard.strategy.source fun n => ⟨BitVec.ofNat 128 n⟩) (exporters 63) = .ok plan) ∧
    Node.readText? (exporters 63).toJson.compact = none ∧
    readText? (new ⟨⟨1⟩⟩ (exporters 63)).toJson.compact = none := by
  have plain : Throughout Printable (exportersJson 63) :=
    exportersJson_throughout (fun _ => trivial) trivial (fun _ => trivial) 63
  have read : Node.readText? (exportersJson 63).compact = some (exporters 63) := by
    refine Node.readText?_ok.mpr ⟨exportersJson 63, ?_, exporters_read 63⟩
    rw [Json.read?_compact plain, nesting_exportersJson, if_pos (by decide),
      Json.inKeyOrder_of_tidy (exportersJson_tidy 63)]
  have textual := Node.textual_of_readText? read
  have printable := textual.printable
    (Node.legible_of_ofJson (exporters_read 63) fun x holds => plain _ holds)
  refine ⟨read, ?_, ?_, ?_⟩
  · have standard : Config.standard.maxDepth = 64 := rfl
    obtain ⟨commands, later, compiles⟩ := exporters_node 63 1
      (Config.standard.strategy.source fun n => ⟨BitVec.ofNat 128 n⟩) (by decide)
    refine ⟨⟨"nc_spm", ["elevation@PERMANENT"], commands⟩, ?_⟩
    rw [Compiler.compile, standard, compiles]
    rfl
  · rw [textual.readText? printable, nesting_exporters]
    rfl
  · rw [readText?_toJson textual printable, new, nesting_exporters]
    rfl

end StoredGraph

end GeoChain
