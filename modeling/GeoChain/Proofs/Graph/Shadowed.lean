import GeoChain.Proofs.Graph.Grammar

/-!
# Shadowed arguments

An argument beside the process is shadowed if a map gives it too. The map counts, so a shadowed
value is no part of the node. But it is read all the same: the node is refused if the value looks
like a node and is none. Apart from that it may be taken away or changed.
-/

namespace GeoChain

namespace Keyed

universe u

variable {α : Type u}

/-- An entry of a map does not count if another one is written over it. -/
theorem overwrite_ofList_erase {name : String} {entries : List (String × α)}
    (written : name ∈ names entries) (map : List (String × α)) :
    overwrite (ofList (erase name map)) entries = overwrite (ofList map) entries := by
  refine eq_of_find? (increasing_overwrite (increasing_ofList _) _)
    (increasing_overwrite (increasing_ofList _) _) fun other => ?_
  rw [find?_overwrite, find?_overwrite]
  by_cases here : other = name
  · obtain ⟨value, found⟩ := Option.ne_none_iff_exists'.mp
      fun none => find?_ofList_eq_none.mp none (here ▸ written)
    rw [found, Option.some_or, Option.some_or]
  · have keeps := find?_ofList_filter (fun key => key ≠ name) other map
    rw [if_pos (by simpa using here)] at keeps
    rw [erase, keeps]

end Keyed

namespace Node

variable {name : String} {value : Json} {rest : List (String × Json)} {node : Node}

/-- A map of the object gives the argument. -/
def IsMapped (name : String) (members : List (String × Json)) : Prop :=
  name ∈ Keyed.names (mapAt "arguments" members) ∨ name ∈ Keyed.names (mapAt "args" members)

theorem mapped_explicit (mapped : IsMapped name rest) : name ∈ Keyed.names (explicit rest) := by
  refine Decidable.byContradiction fun missing => ?_
  have none := Keyed.find?_eq_none.mpr missing
  rw [explicit, Keyed.find?_overwrite, Option.or_eq_none_iff, Keyed.find?_ofList_eq_none,
    Keyed.find?_ofList_eq_none] at none
  exact mapped.elim none.2 none.1

theorem mapAt_insert {key : String} (distinct : name ≠ key) :
    mapAt key (Keyed.insert name value rest) = mapAt key rest := by
  rw [mapAt, mapAt, Keyed.find?_insert_of_ne distinct]

theorem explicit_insert (first : name ≠ argumentsKey) (second : name ≠ argsKey) :
    explicit (Keyed.insert name value rest) = explicit rest := by
  rw [explicit, explicit, mapAt_insert first, mapAt_insert second]

theorem beside_erase (members : List (String × Json)) :
    beside (Keyed.erase name members) = Keyed.erase name (beside members) :=
  List.filter_comm _ _ _

/-- What is read with a shadowed value is read without it, and the value was well formed. -/
theorem ofJson_of_shadowed (absent : name ∉ Keyed.names rest) (process : name ≠ idKey)
    (first : name ≠ argumentsKey) (second : name ≠ argsKey) (mapped : IsMapped name rest)
    (read : ofJson (.object (Keyed.insert name value rest)) = .ok node) :
    ofJson (.object rest) = .ok node ∧ (name ≠ "result" → WellFormed value) := by
  obtain ⟨named, one, other, flat, maps, readFlat, readMaps, same⟩ := ofJson_object.mp read
  rw [Keyed.find?_insert_of_ne process] at named
  rw [Keyed.find?_insert_of_ne first] at one
  rw [Keyed.find?_insert_of_ne second] at other
  rw [explicit_insert first second] at readMaps
  have erased : Keyed.erase name (Keyed.insert name value rest) = rest := by
    rw [Keyed.erase_insert, Keyed.erase, List.filter_eq_self]
    intro entry member
    exact decide_eq_true fun here => absent (here ▸ List.mem_map_of_mem member)
  have without := readFlat.erase name
  rw [← beside_erase, erased] at without
  refine ⟨ofJson_object.mpr ⟨named, one, other, _, maps, without, readMaps, ?_⟩, fun counts => ?_⟩
  · rw [same, Keyed.overwrite_ofList_erase (readMaps.names ▸ mapped_explicit mapped)]
  · have free : ¬ isReserved name := by simp [isReserved, process, first, second, counts]
    have inside : (name, value) ∈ beside (Keyed.insert name value rest) :=
      List.mem_filter.mpr ⟨Keyed.mem_of_find? (Keyed.find?_insert_self _ _ _), by simpa using free⟩
    have readable := Keyed.related_exists.mp ⟨flat, readFlat⟩ _ inside
    exact (reads_exists fun inner _ => ofJson_accepts inner).mp readable

/-- An argument beside the process that a map gives too may be taken away or changed in any way, if
only it does not look like a node without being one: what is read is the same. Such a value is read
with the object, so it has to be well formed; a `result` beside the process is not even read. -/
theorem ofJson_shadowed (absent : name ∉ Keyed.names rest) (process : name ≠ "process_id")
    (first : name ≠ "arguments") (second : name ≠ "args") (mapped : IsMapped name rest)
    (value : Json) (node : Node) :
    ofJson (.object (Keyed.insert name value rest)) = .ok node ↔
      ofJson (.object rest) = .ok node ∧ (name ≠ "result" → WellFormed value) := by
  constructor
  · exact ofJson_of_shadowed absent process first second mapped
  · rintro ⟨read, proper⟩
    -- The object with the value is accepted, and what it reads as is read without the value too.
    have accepted : Accepted (.object (Keyed.insert name value rest)) := by
      cases (ofJson_accepts _).mp ⟨node, read⟩ with
      | object named valid one other flat maps =>
        refine .object (by rwa [Keyed.find?_insert_of_ne process]) valid
          (by rwa [Keyed.find?_insert_of_ne first]) (by rwa [Keyed.find?_insert_of_ne second])
          ?_ (by rwa [explicit_insert first second])
        intro entry member free
        rcases Keyed.mem_insert member with rfl | held
        · exact proper fun same => free (by simp [same])
        · exact flat entry held free
    obtain ⟨other, alsoRead⟩ := (ofJson_accepts _).mpr accepted
    obtain ⟨same, -⟩ := ofJson_of_shadowed absent process first second mapped alsoRead
    cases read.symm.trans same
    exact alsoRead

/-- The members of a node that gives its input in a map. -/
def mappedInput : List (String × Json) := [
  ("arguments", .object [("imagery", .object [
    ("data_id", .string "nc.PERMANENT.strds.tempmean"), ("process_id", .string "get_data")])]),
  ("process_id", .string "min_time")]

theorem literalShadow_read : "imagery" ∉ Keyed.names mappedInput ∧
    IsMapped "imagery" mappedInput ∧ WellFormed (.string "tempmean") ∧
    ∃ node, ofJson (.object (Keyed.insert "imagery" (.string "tempmean") mappedInput)) = .ok node ∧
      ofJson (.object mappedInput) = .ok node := by
  have absent : "imagery" ∉ Keyed.names mappedInput := by decide
  have mapped : IsMapped "imagery" mappedInput := Or.inl (by decide)
  have proper : WellFormed (.string "tempmean") := .literal nofun nofun
  obtain ⟨node, read⟩ : ∃ node, ofJson (.object mappedInput) = .ok node := ⟨_, rfl⟩
  exact ⟨absent, mapped, proper, node, (ofJson_shadowed absent (by decide) (by decide) (by decide)
    mapped (.string "tempmean") node).mpr ⟨read, fun _ => proper⟩, read⟩

/-- A value that does not count, and for which the node is refused all the same. -/
theorem brokenShadow_refused : IsMapped "imagery" mappedInput ∧
    (∃ node, ofJson (.object mappedInput) = .ok node) ∧
    ofJson (.object (Keyed.insert "imagery" (.object [("process_id", .string "get-data")])
      mappedInput)) = .error (.idInvalid "get-data") :=
  ⟨Or.inl (by decide), ⟨_, rfl⟩, rfl⟩

end Node

end GeoChain
