import GeoChain.Graph.Reader
import GeoChain.Proofs.Graph.ProcessId
import GeoChain.Proofs.Json.Nesting
import GeoChain.Proofs.Outcome
import GeoChain.Proofs.Related

/-!
# What a node is read from

An object gives its arguments beside its process and in two maps. Each of them is read as a node, as
a list of nodes or as a literal, by its shape alone. A node is read from an object exactly if the
object names a process, its maps are maps, and all that counts can be read; its arguments are then
what the values read as, one for each name.
-/

namespace GeoChain

namespace Json

/-- An object with a `process_id`, be it well formed or not. -/
def NodeShaped : Json → Prop
  | object members => Node.idKey ∈ Keyed.names members
  | _ => False

/-- An array of such objects, of which there is at least one. -/
def NodeListShaped : Json → Prop
  | array items => items ≠ [] ∧ ∀ item ∈ items, item.NodeShaped
  | _ => False

end Json

namespace Node

variable {members : List (String × Json)} {value : Json}

/-- What a value reads as when it is given for an argument. -/
inductive Reads : Json → Argument → Prop where
  | node {value : Json} {node : Node} (shaped : value.NodeShaped)
      (reads : ofJson value = .ok node) : Reads value (.node node)
  | nodes {items : List Json} {nodes : List Node} (shaped : (Json.array items).NodeListShaped)
      (reads : List.Forall₂ (fun item node => ofJson item = .ok node) items nodes) :
      Reads (.array items) (.nodes nodes)
  | literal {value : Json} (single : ¬ value.NodeShaped) (several : ¬ value.NodeListShaped) :
      Reads value (.literal value)

theorem looksLikeNode_iff : looksLikeNode value ↔ value.NodeShaped := by
  cases value with
  | object members =>
    rw [looksLikeNode, Json.NodeShaped, Option.isSome_iff_ne_none, ne_eq, Keyed.find?_eq_none,
      not_not]
  | null | bool | int | float | string | array => simp [looksLikeNode, Json.NodeShaped]

theorem all_looksLikeNode_iff {items : List Json} :
    (!items.isEmpty && items.all looksLikeNode) ↔ (Json.array items).NodeListShaped := by
  simp [Json.NodeListShaped, looksLikeNode_iff]

theorem readNodes_cons (rest : List Json) : readNodes (.object members :: rest) =
    (ofJson (.object members) >>= fun node => readNodes rest >>= fun more =>
      .ok (node :: more)) := by
  rw [readNodes, ofJson]
  cases assemble members (parts members) with
  | error cause => rfl
  | ok node =>
    cases readNodes rest with
    | error cause => rfl
    | ok more => rfl

theorem readNodes_ok {items : List Json} {nodes : List Node}
    (shaped : ∀ item ∈ items, item.NodeShaped) : readNodes items = .ok nodes ↔
      List.Forall₂ (fun item node => ofJson item = .ok node) items nodes := by
  induction items generalizing nodes with
  | nil => simp [readNodes, eq_comm]
  | cons item rest ih =>
    obtain ⟨here, later⟩ := List.forall_mem_cons.mp shaped
    cases item with
    | object members =>
      simp only [readNodes_cons, Outcome.bind_eq_ok, Except.ok.injEq, ih later,
        List.forall₂_cons_left_iff]
      constructor
      · rintro ⟨node, read, more, others, rfl⟩
        exact ⟨node, more, read, others, rfl⟩
      · rintro ⟨node, more, read, others, rfl⟩
        exact ⟨node, read, more, others, rfl⟩
    | null | bool | int | float | string | array => cases here

theorem classify_ok {argument : Argument} :
    classify value = .ok argument ↔ Reads value argument := by
  cases value with
  | object members =>
    rw [classify]
    by_cases shaped : (Json.object members).NodeShaped
    · rw [if_pos (looksLikeNode_iff.mpr shaped), Outcome.map_eq_ok]
      constructor
      · rintro ⟨node, read, rfl⟩
        exact .node shaped read
      · intro reads
        cases reads with
        | node _ read => exact ⟨_, read, rfl⟩
        | literal single _ => exact absurd shaped single
    · rw [if_neg (fun looks => shaped (looksLikeNode_iff.mp looks)), Except.ok.injEq]
      constructor
      · rintro rfl
        exact .literal shaped nofun
      · intro reads
        cases reads with
        | node single _ => exact absurd single shaped
        | literal _ _ => rfl
  | array items =>
    rw [classify]
    by_cases shaped : (Json.array items).NodeListShaped
    · rw [if_pos (all_looksLikeNode_iff.mpr shaped), Outcome.map_eq_ok]
      constructor
      · rintro ⟨nodes, read, rfl⟩
        exact .nodes shaped ((readNodes_ok shaped.2).mp read)
      · intro reads
        cases reads with
        | node single _ => cases single
        | nodes _ read => exact ⟨_, (readNodes_ok shaped.2).mpr read, rfl⟩
        | literal _ several => exact absurd shaped several
    · rw [if_neg (fun looks => shaped (all_looksLikeNode_iff.mp looks)), Except.ok.injEq]
      constructor
      · rintro rfl
        exact .literal nofun shaped
      · intro reads
        cases reads with
        | node single _ => cases single
        | nodes several _ => exact absurd several shaped
        | literal _ _ => rfl
  | null | bool | int | float | string =>
    rw [classify, Except.ok.injEq]
    · constructor
      · rintro rfl
        exact .literal nofun nofun
      · intro reads
        cases reads with
        | node single _ => cases single
        | literal _ _ => rfl
    all_goals nofun

/-- The members of a map of arguments; a map that is missing has none. -/
def mapAt (key : String) (members : List (String × Json)) : List (String × Json) :=
  match Keyed.find? key members with
  | some (.object inner) => inner
  | _ => []

/-- The arguments that stand beside the process. -/
def beside (members : List (String × Json)) : List (String × Json) :=
  members.filter fun entry => !isReserved entry.1

/-- The arguments in the maps, those in `args` written over those in `arguments`. -/
def explicit (members : List (String × Json)) : List (String × Json) :=
  Keyed.overwrite (Keyed.ofList (mapAt argumentsKey members)) (mapAt argsKey members)

/-- All arguments that count, those in the maps written over those beside the process. -/
def given (members : List (String × Json)) : List (String × Json) :=
  Keyed.overwrite (Keyed.ofList (beside members)) (explicit members)

theorem classifyMembers_eq (members : List (String × Json)) :
    classifyMembers members = members.map fun entry => (entry.1, classify entry.2) := by
  induction members with
  | nil => rfl
  | cons entry rest ih =>
    obtain ⟨key, value⟩ := entry
    rw [classifyMembers, ih, List.map_cons]

theorem mapped_mapAt (key : String) (rest : List (String × Json)) :
    mapped value = (mapAt key ((key, value) :: rest)).map
      fun entry => (entry.1, classify entry.2) := by
  rw [mapAt, Keyed.find?, if_pos rfl]
  cases value with
  | object inner => rw [mapped, classifyMembers_eq]
  | null | bool | int | float | string | array => simp [mapped]

theorem mapAt_cons_of_ne {key other : String} (distinct : other ≠ key)
    (rest : List (String × Json)) : mapAt key ((other, value) :: rest) = mapAt key rest := by
  rw [mapAt, mapAt, Keyed.find?, if_neg distinct]

/-- The parts of an object hold what its arguments read as. -/
theorem parts_eq (members : List (String × Json)) : parts members =
    ⟨(beside members).map fun entry => (entry.1, classify entry.2),
      (mapAt argumentsKey members).map fun entry => (entry.1, classify entry.2),
      (mapAt argsKey members).map fun entry => (entry.1, classify entry.2)⟩ := by
  induction members with
  | nil => rfl
  | cons entry rest ih =>
    obtain ⟨key, value⟩ := entry
    have kept : ¬ isReserved key → beside ((key, value) :: rest) = (key, value) :: beside rest :=
      fun free => List.filter_cons_of_pos (by simpa using free)
    have dropped : isReserved key → beside ((key, value) :: rest) = beside rest :=
      fun reserved => List.filter_cons_of_neg (by simpa using reserved)
    rw [parts, ih]
    by_cases first : key = argumentsKey
    · subst first
      have distinct : argumentsKey ≠ argsKey := by decide
      rw [if_pos rfl, dropped rfl, mapAt_cons_of_ne distinct, ← mapped_mapAt]
    · rw [if_neg first, mapAt_cons_of_ne first]
      by_cases second : key = argsKey
      · subst second
        rw [if_pos rfl, dropped rfl, ← mapped_mapAt]
      · rw [if_neg second, mapAt_cons_of_ne second]
        by_cases reserved : isReserved key
        · rw [if_pos reserved, dropped reserved]
        · rw [if_neg reserved, kept reserved, List.map_cons]

theorem sequence_ok {ε α : Type} {entries : List (String × Except ε α)}
    {values : List (String × α)} : Keyed.sequence entries = .ok values ↔
      Keyed.Related (fun outcome value => outcome = .ok value) entries values := by
  induction entries generalizing values with
  | nil => simp [Keyed.sequence, Keyed.Related, eq_comm]
  | cons entry rest ih =>
    obtain ⟨name, outcome⟩ := entry
    have step : Keyed.sequence ((name, outcome) :: rest) =
        (outcome >>= fun value => Keyed.sequence rest >>= fun values =>
          .ok ((name, value) :: values)) := by
      cases outcome with
      | error cause => rfl
      | ok value =>
        rw [Keyed.sequence]
        cases Keyed.sequence rest with
        | error cause => rfl
        | ok values => rfl
    simp only [step, Outcome.bind_eq_ok, ih, Keyed.Related, List.forall₂_cons_left_iff,
      Except.ok.injEq]
    constructor
    · rintro ⟨value, rfl, more, others, rfl⟩
      exact ⟨(name, value), more, ⟨rfl, rfl⟩, others, rfl⟩
    · rintro ⟨⟨other, value⟩, more, ⟨rfl, rfl⟩, others, rfl⟩
      exact ⟨value, rfl, more, others, rfl⟩

theorem readId_ok {process : ProcessId} : readId members = .ok process ↔
    Keyed.find? idKey members = some (.string process.text) := by
  rw [readId]
  split
  · rename_i text named
    rw [ProcessId.read_eq_ok, named, Option.some.injEq, Json.string.injEq]
    exact eq_comm
  · rename_i found other named
    rw [named]
    simp only [reduceCtorEq, Option.some.injEq, false_iff]
    exact other process.text
  · rename_i named
    simp [named]

/-- A map of arguments is missing, null or an object. -/
def OptionalMap (found : Option Json) : Prop :=
  found = none ∨ found = some .null ∨ ∃ inner, found = some (.object inner)

theorem checkMap_ok {key : String} {process : ProcessId} :
    checkMap key process members = .ok () ↔ OptionalMap (Keyed.find? key members) := by
  rw [checkMap, OptionalMap]
  rcases Keyed.find? key members with _ | (_ | _ | _ | _ | _ | _ | _) <;> simp

theorem assemble_eq_ok {members : List (String × Json)} {parts : Parts} {node : Node} :
    assemble members parts = .ok node ↔ ∃ process beside explicit,
      readId members = .ok process ∧ checkMap argumentsKey process members = .ok () ∧
      checkMap argsKey process members = .ok () ∧ Keyed.sequence parts.beside = .ok beside ∧
      Keyed.sequence (Keyed.overwrite (Keyed.ofList parts.arguments) parts.args) = .ok explicit ∧
      node = .mk process (Keyed.overwrite (Keyed.ofList beside) explicit) := by
  simp only [assemble, Outcome.bind_eq_ok, Outcome.pure_eq, Except.ok.injEq]
  constructor
  · rintro ⟨process, named, ⟨⟩, first, ⟨⟩, second, beside, flat, explicit, mapped, rfl⟩
    exact ⟨process, beside, explicit, named, first, second, flat, mapped, rfl⟩
  · rintro ⟨process, beside, explicit, named, first, second, flat, mapped, rfl⟩
    exact ⟨process, named, (), first, (), second, beside, flat, explicit, mapped, rfl⟩

/-- When and as what an object is read. -/
theorem ofJson_object {node : Node} : ofJson (.object members) = .ok node ↔
    Keyed.find? idKey members = some (.string node.process.text) ∧
    OptionalMap (Keyed.find? argumentsKey members) ∧
    OptionalMap (Keyed.find? argsKey members) ∧
    ∃ flat named, Keyed.Related Reads (beside members) flat ∧
      Keyed.Related Reads (explicit members) named ∧
      node.arguments = Keyed.overwrite (Keyed.ofList flat) named := by
  have read : ∀ {entries : List (String × Json)} {values : List (String × Argument)},
      Keyed.sequence (entries.map fun entry => (entry.1, classify entry.2)) = .ok values ↔
        Keyed.Related Reads entries values := by
    intro entries values
    rw [sequence_ok, Keyed.related_map_left]
    simp only [classify_ok]
  rw [ofJson, assemble_eq_ok, parts_eq]
  simp only [Keyed.ofList_map, Keyed.overwrite_map, read, readId_ok, checkMap_ok]
  obtain ⟨process, arguments⟩ := node
  constructor
  · rintro ⟨name, flat, named, here, first, second, readFlat, readNamed, same⟩
    cases same
    exact ⟨here, first, second, flat, named, readFlat, readNamed, rfl⟩
  · rintro ⟨here, first, second, flat, named, readFlat, readNamed, rfl⟩
    exact ⟨process, flat, named, here, first, second, readFlat, readNamed, rfl⟩

/-- The arguments of a node are what the given values read as. -/
theorem given_related {node : Node} (read : ofJson (.object members) = .ok node) :
    Keyed.Related Reads (given members) node.arguments := by
  obtain ⟨-, -, -, flat, named, readFlat, readNamed, same⟩ := ofJson_object.mp read
  rw [same]
  exact readFlat.ofList.overwrite readNamed

theorem increasing_of_read {node : Node} (read : ofJson value = .ok node) :
    Keyed.Increasing node.arguments := by
  cases value with
  | object members =>
    obtain ⟨-, -, -, flat, named, -, -, same⟩ := ofJson_object.mp read
    rw [same]
    exact Keyed.increasing_overwrite (Keyed.increasing_ofList flat) named
  | null | bool | int | float | string | array => cases read

theorem mem_mapAt {key : String} {entry : String × Json} (member : entry ∈ mapAt key members) :
    ∃ inner, (key, .object inner) ∈ members ∧ entry ∈ inner := by
  rw [mapAt] at member
  split at member
  · rename_i inner found
    exact ⟨inner, Keyed.mem_of_find? found, member⟩
  · cases member

theorem mem_explicit {entry : String × Json} (member : entry ∈ explicit members) :
    ∃ key inner, (key, .object inner) ∈ members ∧ entry ∈ inner := by
  rcases Keyed.mem_overwrite member with early | late
  · exact ⟨argumentsKey, mem_mapAt (Keyed.mem_ofList early)⟩
  · exact ⟨argsKey, mem_mapAt late⟩

theorem nesting_beside {entry : String × Json} (member : entry ∈ beside members) :
    entry.2.nesting < (Json.object members).nesting :=
  Json.nesting_member (List.mem_of_mem_filter member)

theorem nesting_explicit {entry : String × Json} (member : entry ∈ explicit members) :
    entry.2.nesting < (Json.object members).nesting := by
  obtain ⟨key, inner, outside, inside⟩ := mem_explicit member
  exact Nat.lt_trans (Json.nesting_member inside) (Json.nesting_member outside)

theorem nesting_given {entry : String × Json} (member : entry ∈ given members) :
    entry.2.nesting < (Json.object members).nesting := by
  rcases Keyed.mem_overwrite member with flat | mapped
  · exact nesting_beside (Keyed.mem_ofList flat)
  · exact nesting_explicit mapped

/-- What holds of an object holds of the arguments that it gives. -/
theorem given_hereditary {H : Json → Prop} (hereditary : Json.Hereditary H)
    (holds : H (.object members)) {entry : String × Json} (member : entry ∈ given members) :
    H entry.2 := by
  rcases Keyed.mem_overwrite member with flat | mapped
  · exact hereditary holds
      (List.mem_map_of_mem (List.mem_of_mem_filter (Keyed.mem_ofList flat)))
  · obtain ⟨key, inner, outside, inside⟩ := mem_explicit mapped
    exact hereditary (hereditary holds (List.mem_map_of_mem outside))
      (List.mem_map_of_mem inside)

end Node

end GeoChain
