import GeoChain.Proofs.Json.Text
import Mathlib.Data.List.Forall2
import Mathlib.Logic.Function.Basic

/-!
# Records that are read back

Readers look up the fields of a record by name, so they do not see in which order the fields stand.
A field that is left out is missing from the object, and what its reader makes of a missing field is
what was left out. So a record is read back if each of its fields is: as it is written, after its
members were put in key order, and from its text, if that is within the bounds of the reader.
-/

namespace GeoChain

namespace Json

variable {α : Type} {write : α → Json} {read? : Json → Option α} {f : Json → Json}

/-- Puts the members of objects into another order, or leaves them, and changes nothing else. -/
structure Rearranges (f : Json → Json) : Prop where
  flat : ∀ value, value.nesting = 0 → f value = value
  array : ∀ items, f (array items) = array (items.map f)
  object : ∀ members, (Keyed.names members).Nodup → ∃ others, f (object members) = object others ∧
    ∀ name, Keyed.find? name others = (Keyed.find? name members).map f

theorem rearranges_id : Rearranges id where
  flat _ _ := rfl
  array items := by rw [List.map_id, id]
  object members _ := ⟨members, rfl, fun name => by rw [Option.map_id, id]⟩

theorem rearranges_inKeyOrder : Rearranges inKeyOrder where
  flat value flat := by
    cases value with
    | null | bool | int | float | string => rfl
    | array | object => cases flat
  array := inKeyOrder_array
  object members distinct := by
    refine ⟨_, inKeyOrder_object members, fun name => ?_⟩
    have field := field?_inKeyOrder distinct name
    rw [inKeyOrder_object] at field
    exact field

/-- What is written for a value is read as that value, however it is rearranged. -/
def ReadsBack (write : α → Json) (read? : Json → Option α) : Prop :=
  ∀ {f}, Rearranges f → ∀ x, read? (f (write x)) = some x

theorem readsBack_text : ReadsBack string text? := by
  intro f rearranges text
  rw [rearranges.flat _ rfl]
  rfl

/-- A list is read if each of its items is. -/
theorem list?_items (rearranges : Rearranges f) {items : List α}
    (each : ∀ x ∈ items, read? (f (write x)) = some x) :
    list? read? (f (array (items.map write))) = some items := by
  rw [rearranges.array, list?]
  induction items with
  | nil => rfl
  | cons item rest ih =>
    obtain ⟨here, later⟩ := List.forall_mem_cons.mp each
    rw [List.map_cons, List.map_cons, List.mapM_cons, here, ih later]
    rfl

theorem ReadsBack.items (back : ReadsBack write read?) :
    ReadsBack (fun items => array (items.map write)) (list? read?) :=
  fun rearranges _ => list?_items rearranges fun x _ => back rearranges x

/-- The fields have the names, one by one, apart from those that are left out. -/
def Declares (names : List String) (fields : List (Option (String × Json))) : Prop :=
  List.Forall₂ (fun name field => ∀ entry ∈ field, entry.1 = name) names fields

namespace Declares

variable {names : List String} {fields : List (Option (String × Json))} {name : String}

theorem consOf {value : Json} (declares : Declares names fields) :
    Declares (name :: names) (fieldOf name value :: fields) :=
  .cons (by simp [fieldOf]) declares

theorem consIf {x? : Option α} (declares : Declares names fields) :
    Declares (name :: names) (fieldIf name write x? :: fields) :=
  .cons (by simp [fieldIf]) declares

theorem consItems {items : List α} (declares : Declares names fields) :
    Declares (name :: names) (fieldOfItems name write items :: fields) := by
  refine .cons ?_ declares
  rw [fieldOfItems]
  split <;> simp

theorem names_sublist (declares : Declares names fields) :
    (Keyed.names (fields.filterMap id)).Sublist names := by
  induction declares with
  | nil => exact .slnil
  | @cons name field _ _ named _ ih =>
    cases field with
    | none => exact ih.cons name
    | some entry => exact named entry rfl ▸ ih.cons_cons entry.1

/-- A field is found under its declared name, or nothing is if it is left out. -/
theorem find? (declares : Declares names fields) (distinct : names.Nodup)
    {field : Option (String × Json)} (member : (name, field) ∈ names.zip fields) :
    Keyed.find? name (fields.filterMap id) = field.map (·.2) := by
  induction declares with
  | nil => cases member
  | @cons first content names fields named declares ih =>
    obtain ⟨fresh, distinct⟩ := List.nodup_cons.mp distinct
    rcases List.mem_cons.mp member with here | later
    · cases here
      cases field with
      | none =>
        exact Keyed.find?_eq_none.mpr fun held => fresh ((names_sublist declares).subset held)
      | some entry => exact if_pos (named entry rfl)
    · cases content with
      | none => exact ih distinct later
      | some entry =>
        have apart : entry.1 ≠ name := by
          rw [named entry rfl]
          rintro rfl
          exact fresh (List.of_mem_zip later).1
        exact (if_neg apart).trans (ih distinct later)

end Declares

/-- A rearranged object with the content of the fields, each under its name. -/
structure Shows (f : Json → Json) (names : List String) (fields : List (Option (String × Json)))
    (value : Json) : Prop where
  rearranges : Rearranges f
  members : ∃ members, value = object members ∧ ∀ name field, (name, field) ∈ names.zip fields →
    Keyed.find? name members = field.map fun entry => f entry.2

theorem Rearranges.record (rearranges : Rearranges f) {names : List String}
    {fields : List (Option (String × Json))} (declares : Declares names fields)
    (distinct : names.Nodup) : Shows f names fields (f (record fields)) := by
  obtain ⟨others, same, found⟩ :=
    rearranges.object _ (declares.names_sublist.nodup distinct)
  refine ⟨rearranges, others, same, fun name field member => ?_⟩
  rw [found, declares.find? distinct member, Option.map_map]
  rfl

namespace Shows

variable {names : List String} {fields : List (Option (String × Json))} {value : Json}

theorem required? (shows : Shows f names fields value) {held : Json} {x : α} (name : String)
    (read : read? (f held) = some x) (member : (name, fieldOf name held) ∈ names.zip fields) :
    value.required? name read? = some x := by
  obtain ⟨-, members, rfl, found⟩ := shows
  rw [Json.required?, field?, found name _ member]
  exact read

/-- The reader must not take `null` for a value, since `null` counts as a missing field. -/
theorem optional? (shows : Shows f names fields value) (name : String) (x? : Option α)
    (back : ReadsBack write read?) (notNull : read? null = none)
    (member : (name, fieldIf name write x?) ∈ names.zip fields) :
    value.optional? name read? = some x? := by
  obtain ⟨rearranges, members, rfl, found⟩ := shows
  rw [Json.optional?, members?, Option.bind_some, found name _ member]
  cases x? with
  | none => rfl
  | some x =>
    have read := back rearranges x
    rw [fieldIf, Option.map_some, Option.map_some]
    split
    · rename_i absent
      cases absent
    · rename_i isNull
      rw [Option.some.inj isNull, notNull] at read
      cases read
    · rename_i held
      cases held
      rw [read, Option.map_some]

theorem defaulted? (shows : Shows f names fields value) (name : String) (items : List α)
    (back : ReadsBack write read?)
    (member : (name, fieldOfItems name write items) ∈ names.zip fields) :
    value.defaulted? name [] (list? read?) = some items := by
  obtain ⟨rearranges, members, rfl, found⟩ := shows
  rw [Json.defaulted?, members?, Option.bind_some, found name _ member, fieldOfItems]
  cases items with
  | nil => rfl
  | cons item rest => exact back.items rearranges (item :: rest)

end Shows

/-- The value is read back from its text: its numbers are, and it is nested within the bound. -/
structure Fits (bound : Nat) (value : Json) : Prop where
  printable : Throughout Printable value
  shallow : value.nesting ≤ bound

/-- The content of each field fits. -/
def FieldsFit (bound : Nat) (fields : List (Option (String × Json))) : Prop :=
  ∀ field ∈ fields, ∀ entry ∈ field, Fits bound entry.2

namespace Fits

variable {bound : Nat}

theorem text (text : String) : Fits bound (string text) :=
  ⟨throughout_scalar trivial rfl, Nat.zero_le bound⟩

theorem bool (value : Bool) : Fits bound (bool value) :=
  ⟨throughout_scalar trivial rfl, Nat.zero_le bound⟩

theorem mono {value : Json} (fits : Fits bound value) {more : Nat} (le : bound ≤ more) :
    Fits more value :=
  ⟨fits.printable, Nat.le_trans fits.shallow le⟩

theorem array {items : List Json} (each : ∀ item ∈ items, Fits bound item) :
    Fits (bound + 1) (array items) where
  printable := throughout_array.mpr ⟨trivial, fun item member => (each item member).printable⟩
  shallow := Nat.succ_le_succ (nestingItems_le.mpr fun item member => (each item member).shallow)

theorem object {members : List (String × Json)} (each : ∀ entry ∈ members, Fits bound entry.2) :
    Fits (bound + 1) (object members) where
  printable := throughout_object.mpr ⟨trivial, fun entry member => (each entry member).printable⟩
  shallow := Nat.succ_le_succ
    (nestingMembers_le.mpr fun entry member => (each entry member).shallow)

theorem items {items : List α} (fits : ∀ x, Fits bound (write x)) :
    Fits (bound + 1) (Json.array (items.map write)) :=
  .array (List.forall_mem_map.mpr fun x _ => fits x)

theorem record {fields : List (Option (String × Json))} (fits : FieldsFit bound fields) :
    Fits (bound + 1) (record fields) := by
  refine .object fun entry member => ?_
  obtain ⟨field, among, same⟩ := List.mem_filterMap.mp member
  exact fits field among entry same

end Fits

namespace FieldsFit

variable {bound : Nat} {fields : List (Option (String × Json))} {name : String}

theorem nil : FieldsFit bound [] := List.forall_mem_nil _

theorem consOf {value : Json} (here : Fits bound value) (later : FieldsFit bound fields) :
    FieldsFit bound (fieldOf name value :: fields) := by
  refine List.forall_mem_cons.mpr ⟨?_, later⟩
  rintro _ ⟨⟩
  exact here

theorem consIf {x? : Option α} (here : ∀ x, Fits bound (write x))
    (later : FieldsFit bound fields) : FieldsFit bound (fieldIf name write x? :: fields) := by
  refine List.forall_mem_cons.mpr ⟨?_, later⟩
  intro entry member
  obtain ⟨x, -, rfl⟩ := Option.map_eq_some_iff.mp member
  exact here x

theorem consItems {items : List α} (here : ∀ x, Fits bound (write x))
    (later : FieldsFit (bound + 1) fields) :
    FieldsFit (bound + 1) (fieldOfItems name write items :: fields) := by
  refine List.forall_mem_cons.mpr ⟨?_, later⟩
  rw [fieldOfItems]
  split
  · rintro _ ⟨⟩
  · rintro _ ⟨⟩
    exact .items here

end FieldsFit

/-- Every value is read back from what is written for it: from the record, from the JSON value that
the record is, whose members are in key order, and from the text. -/
structure Lossless (write : α → Json) (read? : Json → Option α) : Prop where
  record : ∀ x, read? (write x) = some x
  value : ∀ x, read? (write x).inKeyOrder = some x
  text : ∀ x, (Json.read? (write x).compact).bind read? = some x

theorem ReadsBack.lossless (back : ReadsBack write read?) {bound : Nat}
    (fits : ∀ x, Fits bound (write x)) (within : bound ≤ maxNesting) : Lossless write read? where
  record := back rearranges_id
  value := back rearranges_inKeyOrder
  text x := by
    rw [read?_compact (fits x).printable, if_pos (Nat.le_trans (fits x).shallow within),
      Option.bind_some]
    exact back rearranges_inKeyOrder x

/-- What is read back tells the values apart. -/
theorem Lossless.injective (lossless : Lossless write read?) :
    Function.Injective fun x => (write x).inKeyOrder := by
  intro x y same
  have read := congrArg read? same
  rw [lossless.value, lossless.value] at read
  exact Option.some.inj read

end Json

end GeoChain
