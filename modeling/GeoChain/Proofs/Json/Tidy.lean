import GeoChain.Json.Reader
import GeoChain.Json.Record
import GeoChain.Proofs.Json.Nesting
import GeoChain.Proofs.Keyed
import Mathlib.Tactic.SplitIfs

/-!
# Values that were read

The members of an object that was read stand in key order, and an integer that was read has 64 bits.
What was read is nested as deeply as the reader allows, at most. A value that was not read can be put
in key order; one that was read stays as it is.
-/

namespace GeoChain

namespace Json

open Reader

/-- Objects in key order and integers of 64 bits. -/
def Tidy : Json → Prop
  | object members => Keyed.Increasing members
  | int n => isExact n
  | null | bool _ | float _ | string _ | array _ => True

mutual

/-- The value with the members of all objects in key order, the last one of equal keys. -/
def inKeyOrder : Json → Json
  | array items => array (itemsInKeyOrder items)
  | object members => object (Keyed.ofList (membersInKeyOrder members))
  | null => null
  | bool value => bool value
  | int n => int n
  | float x => float x
  | string text => string text

def itemsInKeyOrder : List Json → List Json
  | [] => []
  | item :: rest => inKeyOrder item :: itemsInKeyOrder rest

def membersInKeyOrder : List (String × Json) → List (String × Json)
  | [] => []
  | (key, value) :: rest => (key, inKeyOrder value) :: membersInKeyOrder rest

end

theorem inKeyOrder_array (items : List Json) :
    inKeyOrder (array items) = array (items.map inKeyOrder) := by
  rw [inKeyOrder]
  congr 1
  induction items with
  | nil => rfl
  | cons item rest ih => rw [itemsInKeyOrder, ih, List.map_cons]

theorem inKeyOrder_object (members : List (String × Json)) : inKeyOrder (object members) =
    object (Keyed.ofList (members.map fun entry => (entry.1, entry.2.inKeyOrder))) := by
  rw [inKeyOrder]
  congr 2
  induction members with
  | nil => rfl
  | cons entry rest ih =>
    obtain ⟨key, value⟩ := entry
    rw [membersInKeyOrder, ih, List.map_cons]

/-- Putting a record in key order leaves each of its fields in it. -/
theorem field?_inKeyOrder {members : List (String × Json)}
    (distinct : (Keyed.names members).Nodup) (name : String) :
    (object members).inKeyOrder.field? name = ((object members).field? name).map inKeyOrder := by
  have names : Keyed.names (members.map fun entry => (entry.1, entry.2.inKeyOrder)) =
      Keyed.names members := by
    simp [Keyed.names, Function.comp_def]
  rw [inKeyOrder_object, field?, field?, Keyed.find?_ofList (names ▸ distinct)]
  exact Keyed.find?_map (fun _ => inKeyOrder) name members

theorem inKeyOrder_object_of_increasing {members : List (String × Json)}
    (increasing : Keyed.Increasing members)
    (ordered : ∀ entry ∈ members, entry.2.inKeyOrder = entry.2) :
    (object members).inKeyOrder = object members := by
  have each : ∀ entry ∈ members, (entry.1, entry.2.inKeyOrder) = entry := fun entry member =>
    Prod.ext rfl (ordered entry member)
  rw [inKeyOrder_object, List.map_congr_left each, List.map_id',
    Keyed.ofList_of_increasing increasing]

theorem inKeyOrder_of_tidy {value : Json} (tidy : Throughout Tidy value) :
    value.inKeyOrder = value := by
  induction value using nesting_induction with
  | step value ih =>
    cases value with
    | array items =>
      have each : ∀ item ∈ items, item.inKeyOrder = item := fun item member =>
        ih item (nesting_item member) ((throughout_array.mp tidy).2 item member)
      rw [inKeyOrder_array, List.map_congr_left each, List.map_id']
    | object members =>
      obtain ⟨increasing, inner⟩ := throughout_object.mp tidy
      exact inKeyOrder_object_of_increasing increasing fun entry member =>
        ih entry.2 (nesting_member member) (inner entry member)
    | null | bool | int | float | string => rfl

section

variable {α : Type} {P : α → Prop} {close : Char} {item? : List Char → Option (α × List Char)}

theorem items?_each (each : ∀ {chars item rest}, item? chars = some (item, rest) → P item)
    {bound : Nat} {chars rest : List Char} {items : List α}
    (read : items? close item? bound chars = some (items, rest)) : ∀ item ∈ items, P item := by
  induction bound generalizing chars items with
  | zero => cases read
  | succ bound ih =>
    rw [items?] at read
    split at read
    · cases read
    · rename_i first more readFirst
      split at read
      · cases read
      · split_ifs at read
        · obtain ⟨⟨others, after⟩, readOthers, same⟩ := Option.map_eq_some_iff.mp read
          cases same
          exact List.forall_mem_cons.mpr ⟨each readFirst, ih readOthers⟩
        · cases read
          exact List.forall_mem_singleton.mpr (each readFirst)

/-- What holds of each item that is read holds of each item of a sequence that is read. -/
theorem sequence?_each (each : ∀ {chars item rest}, item? chars = some (item, rest) → P item)
    {chars rest : List Char} {items : List α}
    (read : sequence? close item? chars = some (items, rest)) : ∀ item ∈ items, P item := by
  rw [sequence?] at read
  split at read
  · cases read
  · split at read
    · cases read
      exact List.forall_mem_nil P
    · exact items?_each each read

end

theorem member?_each {P : Json → Prop} {value? : List Char → Option (Json × List Char)}
    (each : ∀ {chars value rest}, value? chars = some (value, rest) → P value)
    {chars rest : List Char} {entry : String × Json}
    (read : member? value? chars = some (entry, rest)) : P entry.2 := by
  rw [member?] at read
  split at read
  · split at read
    · cases read
    · split at read
      · obtain ⟨⟨value, after⟩, readValue, same⟩ := Option.map_eq_some_iff.mp read
        cases same
        exact each readValue
      · cases read
  · cases read

/-- A value that is neither an array nor an object, and tidy. -/
def Plain (value : Json) : Prop := Tidy value ∧ value.nesting = 0

theorem value?_numeral_plain {n : Numeral} {value : Json} (read : n.value? = some value) :
    Plain value := by
  unfold Numeral.value? at read
  extract_lets magnitude signed at read
  split at read
  · rename_i proper
    cases read
    exact ⟨proper.2.2.1, rfl⟩
  · obtain ⟨x, -, rfl⟩ := Option.map_eq_some_iff.mp read
    exact ⟨trivial, rfl⟩

theorem scalar?_plain {chars rest : List Char} {value : Json}
    (read : scalar? chars = some (value, rest)) : Plain value := by
  rw [scalar?.eq_def] at read
  split at read
  · cases read
    exact ⟨trivial, rfl⟩
  · cases read
    exact ⟨trivial, rfl⟩
  · cases read
    exact ⟨trivial, rfl⟩
  · obtain ⟨⟨text, after⟩, -, same⟩ := Option.map_eq_some_iff.mp read
    cases same
    exact ⟨trivial, rfl⟩
  · obtain ⟨⟨n, after⟩, -, settled⟩ := Option.bind_eq_some_iff.mp read
    obtain ⟨number, readNumber, same⟩ := Option.map_eq_some_iff.mp settled
    cases same
    exact value?_numeral_plain readNumber

theorem Plain.throughout {value : Json} (plain : Plain value) : Throughout Tidy value := by
  refine throughout_scalar plain.1 ?_
  cases value with
  | null | bool | int | float | string => rfl
  | array | object => cases plain.2

theorem value?_tidy {depth : Nat} {chars rest : List Char} {value : Json}
    (read : value? depth chars = some (value, rest)) : Throughout Tidy value := by
  induction depth generalizing chars value rest with
  | zero => exact (scalar?_plain read).throughout
  | succ depth ih =>
    rw [value?] at read
    split at read
    · obtain ⟨⟨items, after⟩, readItems, same⟩ := Option.map_eq_some_iff.mp read
      cases same
      exact throughout_array.mpr ⟨trivial, sequence?_each ih readItems⟩
    · obtain ⟨⟨members, after⟩, readMembers, same⟩ := Option.map_eq_some_iff.mp read
      cases same
      have each : ∀ entry ∈ members, Throughout Tidy entry.2 :=
        sequence?_each (P := fun entry => Throughout Tidy entry.2) (member?_each ih) readMembers
      exact throughout_object.mpr ⟨Keyed.increasing_ofList members,
        fun entry member => each entry (Keyed.mem_ofList member)⟩
    · exact (scalar?_plain read).throughout

theorem value?_nesting {depth : Nat} {chars rest : List Char} {value : Json}
    (read : value? depth chars = some (value, rest)) : value.nesting ≤ depth := by
  induction depth generalizing chars value rest with
  | zero => exact Nat.le_of_eq (scalar?_plain read).2
  | succ depth ih =>
    rw [value?] at read
    split at read
    · obtain ⟨⟨items, after⟩, readItems, same⟩ := Option.map_eq_some_iff.mp read
      cases same
      exact Nat.succ_le_succ (nestingItems_le.mpr (sequence?_each ih readItems))
    · obtain ⟨⟨members, after⟩, readMembers, same⟩ := Option.map_eq_some_iff.mp read
      cases same
      have each : ∀ entry ∈ members, entry.2.nesting ≤ depth :=
        sequence?_each (P := fun entry => entry.2.nesting ≤ depth) (member?_each ih) readMembers
      exact Nat.succ_le_succ (nestingMembers_le.mpr
        fun entry member => each entry (Keyed.mem_ofList member))
    · rw [(scalar?_plain read).2]
      exact Nat.zero_le _

theorem read?_tidy {text : String} {value : Json} (read : Json.read? text = some value) :
    Throughout Tidy value := by
  rw [Json.read?] at read
  split at read
  · rename_i found rest readFound
    split at read
    · cases read
      exact value?_tidy readFound
    · cases read
  · cases read

theorem read?_nesting {text : String} {value : Json} (read : Json.read? text = some value) :
    value.nesting ≤ maxNesting := by
  rw [Json.read?] at read
  split at read
  · rename_i found rest readFound
    split at read
    · cases read
      exact value?_nesting readFound
    · cases read
  · cases read

end Json

end GeoChain
