import GeoChain.Compile.Compiler
import GeoChain.Proofs.Graph.Given

/-!
# The grammar of process graphs

Which JSON values are nodes, stated without the reader. The reader accepts exactly those. What it
reads has one argument for each name that is given, and of the values that are given for a name the
one in `args` counts, then the one in `arguments`, then the one beside the process.
-/

namespace GeoChain

namespace Node

variable {members : List (String × Json)} {value : Json}

mutual

/-- The values that are nodes. -/
inductive Accepted : Json → Prop where
  | object {members : List (String × Json)} {text : String}
      (named : Keyed.find? "process_id" members = some (.string text))
      (valid : IsProcessId text)
      (first : OptionalMap (Keyed.find? "arguments" members))
      (second : OptionalMap (Keyed.find? "args" members))
      (flat : ∀ entry ∈ members, entry.1 ∉ ["process_id", "arguments", "args", "result"] →
        WellFormed entry.2)
      (mapped : ∀ entry ∈ explicit members, WellFormed entry.2) : Accepted (.object members)

/-- The values that may be given for an argument. -/
inductive WellFormed : Json → Prop where
  | node {value : Json} (shaped : value.NodeShaped) (accepted : Accepted value) :
      WellFormed value
  | nodes {items : List Json} (shaped : (Json.array items).NodeListShaped)
      (accepted : ∀ item ∈ items, Accepted item) : WellFormed (.array items)
  | literal {value : Json} (single : ¬ value.NodeShaped) (several : ¬ value.NodeListShaped) :
      WellFormed value

end

/-- The value that counts for an argument. -/
def argumentAt (name : String) (members : List (String × Json)) : Option Json :=
  (Keyed.find? name (Keyed.ofList (mapAt argsKey members))).or <|
    (Keyed.find? name (Keyed.ofList (mapAt argumentsKey members))).or <|
      if isReserved name then none else Keyed.find? name (Keyed.ofList members)

theorem find?_given (name : String) (members : List (String × Json)) :
    Keyed.find? name (given members) = argumentAt name members := by
  have maps : Keyed.find? name (Keyed.ofList (explicit members)) =
      (Keyed.find? name (Keyed.ofList (mapAt argsKey members))).or
        (Keyed.find? name (Keyed.ofList (mapAt argumentsKey members))) := by
    have increasing : Keyed.Increasing (explicit members) :=
      Keyed.increasing_overwrite (Keyed.increasing_ofList _) _
    rw [Keyed.ofList_of_increasing increasing, explicit, Keyed.find?_overwrite]
  have flat : Keyed.find? name (Keyed.ofList (beside members)) =
      if isReserved name then none else Keyed.find? name (Keyed.ofList members) := by
    rw [beside, Keyed.find?_ofList_filter fun key => !isReserved key]
    cases isReserved name <;> rfl
  rw [given, Keyed.find?_overwrite, maps, flat, Option.or_assoc, argumentAt]

theorem isReserved_iff {key : String} :
    isReserved key ↔ key ∈ ["process_id", "arguments", "args", "result"] := by
  have one : isReserved key ↔
      key = idKey ∨ key = argumentsKey ∨ key = argsKey ∨ key = "result" := by
    simp [isReserved, or_assoc]
  simp [one, idKey, argumentsKey, argsKey]

theorem beside_wellFormed : (∀ entry ∈ beside members, WellFormed entry.2) ↔
    ∀ entry ∈ members, entry.1 ∉ ["process_id", "arguments", "args", "result"] →
      WellFormed entry.2 := by
  simp only [beside, List.mem_filter, ← isReserved_iff, Bool.not_eq_true', and_imp,
    Bool.not_eq_true]

/-- A value reads as some argument if it is well formed, provided that the reader accepts the nodes
in it. -/
theorem reads_exists (inside : ∀ inner : Json, inner.nesting ≤ value.nesting →
    ((∃ node, ofJson inner = .ok node) ↔ Accepted inner)) :
    (∃ argument, Reads value argument) ↔ WellFormed value := by
  constructor
  · rintro ⟨argument, reads⟩
    cases reads with
    | node shaped read => exact .node shaped ((inside value (Nat.le_refl _)).mp ⟨_, read⟩)
    | nodes shaped read =>
      refine .nodes shaped fun item member => ?_
      have small := Nat.le_of_lt (Json.nesting_item member)
      exact (inside item small).mp (Keyed.exists_forall₂.mp ⟨_, read⟩ item member)
    | literal single several => exact .literal single several
  · intro wellFormed
    cases wellFormed with
    | node shaped accepted =>
      obtain ⟨node, read⟩ := (inside value (Nat.le_refl _)).mpr accepted
      exact ⟨_, .node shaped read⟩
    | @nodes items shaped accepted =>
      have each : ∀ item ∈ items, ∃ node, ofJson item = .ok node := by
        intro item member
        have small := Nat.le_of_lt (Json.nesting_item member)
        exact (inside item small).mpr (accepted item member)
      obtain ⟨nodes, read⟩ := Keyed.exists_forall₂.mpr each
      exact ⟨_, .nodes shaped read⟩
    | literal single several => exact ⟨_, .literal single several⟩

/-- The reader accepts exactly the nodes of the grammar. -/
theorem ofJson_accepts (value : Json) : (∃ node, ofJson value = .ok node) ↔ Accepted value := by
  -- What an object gives for its arguments is nested less deeply than it, in a map or beside it.
  induction value using Json.nesting_induction with
  | step value ih =>
    have reads : ∀ entry : String × Json, entry.2.nesting < value.nesting →
        ((∃ argument, Reads entry.2 argument) ↔ WellFormed entry.2) :=
      fun entry small => reads_exists fun inner less => ih inner (Nat.lt_of_le_of_lt less small)
    constructor
    · rintro ⟨node, read⟩
      cases value with
      | object members =>
        obtain ⟨named, first, second, flat, mapped, readFlat, readMapped, -⟩ :=
          ofJson_object.mp read
        refine .object named node.process.valid first second (beside_wellFormed.mp ?_) ?_
        · intro entry member
          exact (reads entry (nesting_beside member)).mp
            (Keyed.related_exists.mp ⟨flat, readFlat⟩ entry member)
        · intro entry member
          exact (reads entry (nesting_explicit member)).mp
            (Keyed.related_exists.mp ⟨mapped, readMapped⟩ entry member)
      | null | bool | int | float | string | array => cases read
    · intro accepted
      cases accepted with
      | @object members text named valid first second flat mapped =>
        obtain ⟨readings, readFlat⟩ := Keyed.related_exists.mpr fun entry member =>
          (reads entry (nesting_beside member)).mpr (beside_wellFormed.mpr flat entry member)
        obtain ⟨mappings, readMapped⟩ := Keyed.related_exists.mpr fun entry member =>
          (reads entry (nesting_explicit member)).mpr (mapped entry member)
        exact ⟨.mk ⟨text, valid⟩ (Keyed.overwrite (Keyed.ofList readings) mappings),
          ofJson_object.mpr ⟨named, first, second, _, _, readFlat, readMapped, rfl⟩⟩

/-- The reader accepts exactly the nodes of the grammar. The arguments of what it reads are those
that count, each of them once, and whatever it refuses is a malformed graph. -/
theorem ofJson_grammar (value : Json) :
    ((∃ node, ofJson value = .ok node) ↔ Accepted value) ∧
    (∀ node, ofJson value = .ok node → ∃ members, value = .object members ∧
      Keyed.find? "process_id" members = some (.string node.process.text) ∧
      Keyed.Increasing node.arguments ∧
      ∀ name, Option.Rel Reads (argumentAt name members) (node.argument? name)) ∧
    (¬ Accepted value → ∃ cause, ofJson value = .error cause ∧
      ∀ (compiler : Compiler) (ids : IdSource),
        compiler.compileJson ids value = .error (.malformed cause)) := by
  refine ⟨ofJson_accepts value, ?_, ?_⟩
  · intro node read
    cases value with
    | object members =>
      refine ⟨members, rfl, (ofJson_object.mp read).1, increasing_of_read read, fun name => ?_⟩
      rw [← find?_given]
      exact (given_related read).find? name
    | null | bool | int | float | string | array => cases read
  · intro refused
    cases outcome : ofJson value with
    | ok node => exact absurd ((ofJson_accepts value).mp ⟨node, outcome⟩) refused
    | error cause =>
      refine ⟨cause, rfl, fun compiler ids => ?_⟩
      rw [Compiler.compileJson, outcome]

/-- The members of a node that gives one argument in all three places, and a `result` in two. -/
def severalPlaces : List (String × Json) := [
  ("args", .object [("method", .string "maximum")]),
  ("arguments", .object [("method", .string "minimum"), ("result", .int 1)]),
  ("imagery", .object [("process_id", .string "get_data")]),
  ("method", .null),
  ("process_id", .string "min_time"),
  ("result", .object [("process_id", .null)])]

theorem severalPlaces_read :
    (∃ node, ofJson (.object severalPlaces) = .ok node ∧
      node.argument? "method" = some (.literal (.string "maximum")) ∧
      ∀ name, Option.Rel Reads (argumentAt name severalPlaces) (node.argument? name)) ∧
    ¬ Accepted (.object []) ∧ ∀ (compiler : Compiler) (ids : IdSource),
      compiler.compileJson ids (.object []) = .error (.malformed .idMissing) := by
  constructor
  · obtain ⟨node, read⟩ : ∃ node, ofJson (.object severalPlaces) = .ok node := ⟨_, rfl⟩
    obtain ⟨members, same, -, -, related⟩ :=
      (ofJson_grammar (.object severalPlaces)).2.1 node read
    cases same
    cases read
    exact ⟨_, rfl, rfl, related⟩
  · obtain ⟨accepts, -, refuses⟩ := ofJson_grammar (.object [])
    have refused : ¬ Accepted (.object []) := by
      intro accepted
      obtain ⟨node, read⟩ := accepts.mpr accepted
      cases read
    obtain ⟨cause, outcome, malformed⟩ := refuses refused
    cases outcome
    exact ⟨refused, malformed⟩

end Node

end GeoChain
