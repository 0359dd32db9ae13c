import GeoChain.Proofs.Graph.RoundTrip
import GeoChain.Proofs.Json.Text

/-!
# Graphs that were read from a text

In a graph that was read from a text every literal is in key order and every argument can be
recognized. Its record is a text in which every node takes two levels of nesting, where it may have
been read from one. Within the bound of the reader the text is read back as the graph; beyond it, it
is refused.
-/

namespace GeoChain

open Json (Throughout Tidy Printable)

/-- What holds of the literal of an argument, if it is one. -/
def Argument.Literally (P : Json → Prop) : Argument → Prop
  | .literal value => P value
  | .node _ | .nodes _ => True

namespace Node

variable {node : Node} {value : Json} {argument : Argument} {P : Json → Prop}

/-- A graph that is read from a text. -/
def readText? (text : String) : Option Node :=
  (Json.read? text).bind fun value => (ofJson value).toOption

theorem ofJson_literally {H : Json → Prop} (hereditary : Json.Hereditary H) (holds : H value)
    (reads : ofJson value = .ok node) : node.Every (Argument.Literally H) := by
  refine ofJson_every hereditary ?_ holds reads
  intro held argument inside read
  cases read with
  | node _ _ => trivial
  | nodes _ _ => trivial
  | literal _ _ => exact inside

theorem written_throughout {write : Node → Json} (arrays : ∀ items, P (.array items))
    (here : argument.Literally (Throughout P))
    (nested : ∀ child ∈ argument.nested, Throughout P (write child)) :
    Throughout P (argument.written write) := by
  cases argument with
  | literal value => exact here
  | node child => exact nested child List.mem_cons_self
  | nodes children =>
    exact Json.throughout_iff.mpr ⟨arrays _, List.forall_mem_map.mpr nested⟩

/-- What holds of records, lists, texts and of all literals holds of all that is written. -/
theorem toJson_throughout (objects : ∀ members, P (.object members))
    (arrays : ∀ items, P (.array items)) (strings : ∀ text, P (.string text))
    (literals : node.Every (Argument.Literally (Throughout P))) : Throughout P node.toJson := by
  induction node using nested_induction with
  | step process given ih =>
    obtain ⟨here, nested⟩ := literals
    have each : ∀ entry ∈ given, Throughout P (entry.2.written toJson) := fun entry member =>
      written_throughout arrays (here entry member) fun child inside =>
        ih entry member child inside (nested entry member child inside)
    rw [toJson, argumentsJson_eq, Json.throughout_object, List.forall_mem_cons,
      List.forall_mem_singleton, Json.throughout_object, List.forall_mem_map]
    exact ⟨objects _, Json.throughout_scalar (strings _) rfl, objects _, each⟩

theorem written_inKeyOrder (tidy : argument.Literally (Throughout Tidy)) :
    (argument.written toJson).inKeyOrder =
      argument.written fun child => child.toJson.inKeyOrder := by
  cases argument with
  | literal value => exact Json.inKeyOrder_of_tidy tidy
  | node child => rfl
  | nodes children =>
    rw [Argument.written, Json.inKeyOrder_array, List.map_map]
    rfl

theorem argumentsJson_inKeyOrder {given : List (String × Argument)}
    (increasing : Keyed.Increasing given)
    (tidy : ∀ entry ∈ given, entry.2.Literally (Throughout Tidy)) :
    (Json.object (argumentsJson given)).inKeyOrder = .object
      (given.map fun entry => (entry.1, entry.2.written fun child => child.toJson.inKeyOrder)) := by
  have each : ∀ entry ∈ given, (entry.1, (entry.2.written toJson).inKeyOrder) =
      (entry.1, entry.2.written fun child => child.toJson.inKeyOrder) := fun entry member =>
    Prod.ext rfl (written_inKeyOrder (tidy entry member))
  rw [argumentsJson_eq, Json.inKeyOrder_object]
  simp only [List.map_map, Function.comp_def]
  rw [List.map_congr_left each, Keyed.ofList_of_increasing ((Keyed.increasing_map _).mpr increasing)]

/-- In key order, the record of a node is still a record of it. -/
theorem inKeyOrder_recorded (increasing : Keyed.Increasing node.arguments)
    (tidy : ∀ entry ∈ node.arguments, entry.2.Literally (Throughout Tidy)) :
    Recorded (fun child => child.toJson.inKeyOrder) node node.toJson.inKeyOrder := by
  obtain ⟨process, given⟩ := node
  have field : ∀ name, (toJson (.mk process given)).inKeyOrder.field? name =
      ((toJson (.mk process given)).field? name).map Json.inKeyOrder :=
    Json.field?_inKeyOrder (by simp [Keyed.names])
  have named := field idKey
  have held := field argumentsKey
  rw [toJson, Json.inKeyOrder_object] at *
  refine .mk ?_ named (held.trans (congrArg some (argumentsJson_inKeyOrder increasing tidy)))
  intro entry member
  rcases List.mem_pair.mp (Keyed.mem_ofList member) with rfl | rfl
  · exact .inl rfl
  · exact .inr rfl

/-- What every graph is that was read from a text. -/
structure Textual (node : Node) : Prop where
  ordered : node.Ordered
  tidy : node.Every (Argument.Literally (Throughout Tidy))
  recognizable : node.Every Argument.Recognizable

theorem textual_of_ofJson (tidy : Throughout Tidy value) (reads : ofJson value = .ok node) :
    node.Textual where
  ordered := ofJson_ordered reads
  tidy := ofJson_literally (Json.throughout_hereditary Tidy) tidy reads
  recognizable := ofJson_every (Json.throughout_hereditary Tidy)
    (fun _ => recognizable_of_reads) tidy reads

theorem Textual.ofJson_inKeyOrder (textual : node.Textual) :
    ofJson node.toJson.inKeyOrder = .ok node := by
  refine (read_back (fun node => node.toJson.inKeyOrder)
    (fun node => node.Ordered ∧ node.Every (Argument.Literally (Throughout Tidy)))
    ?_ ?_ ?_ ⟨textual.ordered, textual.tidy⟩).mpr textual.recognizable
  · rintro _ ⟨⟨increasing, -⟩, here, -⟩
    exact inKeyOrder_recorded increasing here
  · rintro _ ⟨⟨increasing, -⟩, -⟩
    exact increasing
  · rintro _ ⟨⟨-, ordered⟩, -, tidy⟩ entry member child inside
    exact ⟨ordered entry member child inside, tidy entry member child inside⟩

/-- Each floating-point number in the record of a node is read back from its text. -/
def Legible (node : Node) : Prop :=
  ∀ x, node.toJson.Holds (.float x) → Json.read? x.jsonText = some (.float x)

/-- A node holds no floating-point numbers but those that it was read from. -/
theorem legible_of_ofJson (reads : ofJson value = .ok node)
    (floats : ∀ x, value.Holds (.float x) → Json.read? x.jsonText = some (.float x)) :
    node.Legible := by
  have held : Throughout
      (fun value => ∀ x, value = .float x → Json.read? x.jsonText = some (.float x)) value := by
    rintro _ holds x rfl
    exact floats x holds
  have literals := ofJson_literally (Json.throughout_hereditary _) held reads
  intro x holds
  exact toJson_throughout (by simp) (by simp) (by simp) literals _ holds x rfl

theorem Textual.printable (textual : node.Textual) (legible : node.Legible) :
    Throughout Printable node.toJson := by
  have literals : node.Every (Argument.Literally
      (Throughout fun value => ∀ n, value = .int n → Json.isExact n)) := by
    refine textual.tidy.mono fun argument holds => ?_
    cases argument with
    | literal value =>
      refine Throughout.mono holds ?_
      rintro _ tidy n rfl
      exact tidy
    | node _ => trivial
    | nodes _ => trivial
  have exact : Throughout (fun value => ∀ n, value = .int n → Json.isExact n) node.toJson :=
    toJson_throughout (by simp) (by simp) (by simp) literals
  intro inner holds
  cases inner with
  | int n => exact exact _ holds n rfl
  | float x => exact legible x holds
  | null | bool | string | array | object => trivial

/-- The record of a graph that was read from a text is read back as far as the bound allows. -/
theorem Textual.readText? (textual : node.Textual) (printable : Throughout Printable node.toJson) :
    readText? node.toJson.compact =
      if node.toJson.nesting ≤ Json.maxNesting then some node else none := by
  rw [Node.readText?, Json.read?_compact printable]
  split
  · rw [Option.bind_some, textual.ofJson_inKeyOrder]
    rfl
  · rfl

theorem readText?_ok {text : String} : Node.readText? text = some node ↔
    ∃ value, Json.read? text = some value ∧ ofJson value = .ok node := by
  simp [Node.readText?, Option.bind_eq_some_iff, Outcome.toOption_eq_some]

theorem textual_of_readText? {text : String} (read : Node.readText? text = some node) :
    node.Textual := by
  obtain ⟨value, readValue, reads⟩ := readText?_ok.mp read
  exact textual_of_ofJson (Json.read?_tidy readValue) reads

theorem nesting_written {argument : Argument} (reads : Reads value argument)
    (inside : ∀ child ∈ argument.nested, ∀ {held}, ofJson held = .ok child →
      child.toJson.nesting ≤ 2 * held.nesting) :
    (argument.written toJson).nesting ≤ 2 * value.nesting := by
  cases reads with
  | literal _ _ => exact Nat.le_mul_of_pos_left _ (by decide)
  | node _ read => exact inside _ List.mem_cons_self read
  | @nodes items nested _ read =>
    have each : ∀ record ∈ nested.map toJson, record.nesting ≤ 2 * Json.nestingItems items := by
      refine List.forall_mem_map.mpr fun child member => ?_
      obtain ⟨item, memberItem, readItem⟩ := Keyed.exists_of_mem_right read member
      have small := inside child member readItem
      have within := Json.nestingItems_le.mp (Nat.le_refl _) item memberItem
      omega
    have bound := Json.nestingItems_le.mpr each
    rw [Argument.written, Json.nesting, Json.nesting]
    omega

/-- A node is written at two levels of nesting for each level that it was read from, at most. -/
theorem nesting_toJson (reads : ofJson value = .ok node) :
    node.toJson.nesting ≤ 2 * value.nesting := by
  induction node using nested_induction generalizing value with
  | step process given ih =>
    cases value with
    | object members =>
      have each : ∀ entry ∈ given.map fun entry => (entry.1, entry.2.written toJson),
          entry.2.nesting ≤ 2 * Json.nestingMembers members := by
        refine List.forall_mem_map.mpr ?_
        rintro ⟨name, argument⟩ member
        obtain ⟨held, inside, read⟩ := (given_related reads).of_mem member
        have less := nesting_given inside
        have small := nesting_written read fun child within _ => ih _ member child within
        rw [Json.nesting] at less
        dsimp only at less ⊢
        omega
      have bound := Json.nestingMembers_le.mpr each
      simp only [toJson, argumentsJson_eq, Json.nesting, Json.nestingMembers]
      omega
    | null | bool | int | float | string | array => cases reads

end Node

end GeoChain
