import GeoChain.Proofs.Json.Record

/-!
# Records of what was received

What comes from outside was read from a value whose objects are in key order. A record that keeps
such values is handed on as it is written, or in key order, which changes none of them. Whether it
is read back depends on the values that it keeps, so this is a property of each record.
-/

namespace GeoChain

namespace Json

variable {α : Type} {write : α → Json} {read? : Json → Option α} {f : Json → Json} {x : α}

/-- Read from a value that has objects in key order and integers of 64 bits, as all values have
that were read from a text. -/
def Received (read? : Json → Option α) (x : α) : Prop :=
  ∃ value, Throughout Tidy value ∧ read? value = some x

/-- The forms in which a record is handed on. -/
inductive Form : (Json → Json) → Prop where
  | written : Form id
  | ordered : Form inKeyOrder

/-- What is written for the value is read as the value, in each form. -/
def Survives (write : α → Json) (read? : Json → Option α) (x : α) : Prop :=
  ∀ f, Form f → read? (f (write x)) = some x

/-- The value is read back from the text of what is written for it. -/
def SurvivesAsText (write : α → Json) (read? : Json → Option α) (x : α) : Prop :=
  (Json.read? (write x).compact).bind read? = some x

/-- Every floating-point number in the value is read back from its text. -/
structure Legible (value : Json) : Prop where
  floats : ∀ x, value.Holds (float x) → Json.read? x.jsonText = some (float x)

namespace Form

theorem rearranges (form : Form f) : Rearranges f := by
  cases form with
  | written => exact rearranges_id
  | ordered => exact rearranges_inKeyOrder

theorem apply_eq_self (form : Form f) {value : Json} (ordered : value.inKeyOrder = value) :
    f value = value := by
  cases form with
  | written => rfl
  | ordered => exact ordered

end Form

namespace Survives

theorem items {items : List α} (each : ∀ x ∈ items, Survives write read? x) (form : Form f) :
    list? read? (f (array (items.map write))) = some items :=
  list?_items form.rearranges fun x member => each x member f form

/-- A record that survives does so as a text, too, if that is within the bounds of the reader. -/
theorem asText (survives : Survives write read? x) (fits : Fits maxNesting (write x)) :
    SurvivesAsText write read? x := by
  rw [SurvivesAsText, read?_compact fits.printable, if_pos fits.shallow, Option.bind_some]
  exact survives inKeyOrder .ordered

end Survives

/-- A field that is always written is found, whether it has a default or not. -/
theorem Shows.given? {names : List String} {fields : List (Option (String × Json))} {value : Json}
    (shows : Shows f names fields value) {held : Json} (name : String) (missing : α)
    (read : read? (f held) = some x) (member : (name, fieldOf name held) ∈ names.zip fields) :
    value.defaulted? name missing read? = some x := by
  obtain ⟨-, members, rfl, found⟩ := shows
  rw [Json.defaulted?, members?, Option.bind_some, found name _ member]
  exact read

/-- What is read from a field with a default is the default or what stands in the field. -/
theorem defaulted?_eq_some {name : String} {missing : α} {value : Json}
    (read : value.defaulted? name missing read? = some x) :
    x = missing ∨ ∃ held ∈ value.children, read? held = some x := by
  cases value with
  | object members =>
    rw [defaulted?, members?, Option.bind_some] at read
    split at read
    · cases read
      exact .inl rfl
    · rename_i held found
      exact .inr ⟨held, List.mem_map_of_mem (Keyed.mem_of_find? found), read⟩
  | null | bool | int | float | string | array => cases read

theorem mem_of_list? {value : Json} {items : List α} (read : list? read? value = some items)
    (member : x ∈ items) : ∃ item ∈ value.children, read? item = some x := by
  cases value with
  | array held =>
    rw [list?] at read
    induction held generalizing items with
    | nil =>
      cases read
      cases member
    | cons first rest ih =>
      simp only [List.mapM_cons, Option.bind_eq_bind, Option.bind_eq_some_iff] at read
      obtain ⟨here, readFirst, others, readRest, same⟩ := read
      cases same
      rcases List.mem_cons.mp member with rfl | later
      · exact ⟨first, List.mem_cons_self, readFirst⟩
      · obtain ⟨item, inside, readItem⟩ := ih later readRest
        exact ⟨item, List.mem_cons_of_mem _ inside, readItem⟩
  | null | bool | int | float | string | object => cases read

/-- An item of a list in a field of a record was read from what stands in that list. -/
theorem item_of_defaulted? {name : String} {value : Json} {items : List α}
    (read : value.defaulted? name [] (list? read?) = some items) (member : x ∈ items) :
    ∃ list ∈ value.children, ∃ item ∈ list.children, read? item = some x := by
  rcases defaulted?_eq_some read with rfl | ⟨list, inside, readList⟩
  · cases member
  · exact ⟨list, inside, mem_of_list? readList member⟩

/-- An optional text is the member of its name, `null` apart. -/
theorem optional?_text_eq_some {members : List (String × Json)} {name : String}
    {text? : Option String} : (object members).optional? name Json.text? = some text? ↔
      (Keyed.find? name members).filter (· ≠ null) = text?.map string := by
  rw [optional?, members?, Option.bind_some]
  cases Keyed.find? name members with
  | none => cases text? <;> simp
  | some value => cases value <;> cases text? <;> simp [Json.text?, Option.filter]

theorem bool?_form (form : Form f) (value : Bool) : bool? (f (bool value)) = some value := by
  rw [form.rearranges.flat _ rfl]
  rfl

theorem nesting_child {value child : Json} (member : child ∈ value.children) :
    child.nesting < value.nesting := by
  cases value with
  | array items => exact nesting_item member
  | object members =>
    obtain ⟨entry, among, rfl⟩ := List.mem_map.mp member
    exact nesting_member among
  | null | bool | int | float | string => cases member

theorem Fits.child {bound : Nat} {value child : Json} (fits : Fits (bound + 1) value)
    (member : child ∈ value.children) : Fits bound child where
  printable := throughout_hereditary Printable fits.printable member
  shallow := Nat.le_of_lt_succ (Nat.lt_of_lt_of_le (nesting_child member) fits.shallow)

theorem legible_iff {value : Json} : value.Legible ↔ Throughout
    (fun inner => ∀ x, inner = float x → Json.read? x.jsonText = some (float x)) value := by
  constructor
  · rintro ⟨floats⟩ _ holds x rfl
    exact floats x holds
  · exact fun all => ⟨fun x holds => all _ holds x rfl⟩

theorem legible_array {items : List Json} :
    (array items).Legible ↔ ∀ item ∈ items, item.Legible := by
  simp [legible_iff, throughout_array]

theorem legible_object {members : List (String × Json)} :
    (object members).Legible ↔ ∀ entry ∈ members, entry.2.Legible := by
  simp [legible_iff, throughout_object]

theorem legible_of_scalar {value : Json} (alone : value.children = [])
    (reads : ∀ x, value = float x → Json.read? x.jsonText = some (float x)) : value.Legible :=
  legible_iff.mpr (throughout_scalar reads alone)

/-- What was read from a text fits, apart from floating-point numbers that are not read back. -/
theorem fits_of_read? {text : String} {value : Json} (read : Json.read? text = some value)
    (legible : value.Legible) : Fits maxNesting value where
  printable inner holds := by
    have tidy := read?_tidy read inner holds
    cases inner with
    | int n => exact tidy
    | float x => exact legible.floats x holds
    | null | bool | string | array | object => trivial
  shallow := read?_nesting read

/-- An object that holds nothing but texts. -/
def holdsTexts (value : Json) : Bool :=
  value.members?.any fun members => members.all fun entry => entry.2.text?.isSome

theorem fits_of_holdsTexts {bound : Nat} {value : Json} (texts : value.holdsTexts) :
    Fits (bound + 1) value := by
  cases value with
  | object members =>
    refine .object fun entry member => ?_
    have isText := List.all_eq_true.mp texts entry member
    obtain ⟨key, content⟩ := entry
    cases content with
    | string text => exact .text text
    | null | bool | int | float | array | object => cases isText
  | null | bool | int | float | string | array => cases texts

end Json

end GeoChain
