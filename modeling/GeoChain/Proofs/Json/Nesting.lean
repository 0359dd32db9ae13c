import GeoChain.Json.Basic
import Mathlib.Data.Nat.Init

/-!
# Nesting

How many arrays and objects of a JSON value stand inside of one another, at most. What an array or
an object holds is nested less deeply than it, which is what inductions on values go by. A property
that arrays and objects hand down to what they hold is hereditary, such as that of all values that
hold nothing but values of a certain kind.
-/

namespace GeoChain

namespace Json

mutual

/-- The greatest number of arrays and objects that are nested in each other. -/
def nesting : Json → Nat
  | array items => nestingItems items + 1
  | object members => nestingMembers members + 1
  | null | bool _ | int _ | float _ | string _ => 0

def nestingItems : List Json → Nat
  | [] => 0
  | item :: rest => max (nesting item) (nestingItems rest)

def nestingMembers : List (String × Json) → Nat
  | [] => 0
  | (_, value) :: rest => max (nesting value) (nestingMembers rest)

end

theorem nestingItems_le {items : List Json} {depth : Nat} :
    nestingItems items ≤ depth ↔ ∀ item ∈ items, item.nesting ≤ depth := by
  induction items with
  | nil => simp [nestingItems]
  | cons item rest ih => rw [nestingItems, Nat.max_le, ih, List.forall_mem_cons]

theorem nestingMembers_le {members : List (String × Json)} {depth : Nat} :
    nestingMembers members ≤ depth ↔ ∀ entry ∈ members, entry.2.nesting ≤ depth := by
  induction members with
  | nil => simp [nestingMembers]
  | cons entry rest ih =>
    obtain ⟨key, value⟩ := entry
    rw [nestingMembers, Nat.max_le, ih, List.forall_mem_cons]

theorem nesting_item {items : List Json} {item : Json} (member : item ∈ items) :
    item.nesting < (array items).nesting :=
  Nat.lt_succ_of_le (nestingItems_le.mp (Nat.le_refl _) item member)

theorem nesting_member {members : List (String × Json)} {entry : String × Json}
    (member : entry ∈ members) : entry.2.nesting < (object members).nesting :=
  Nat.lt_succ_of_le (nestingMembers_le.mp (Nat.le_refl _) entry member)

/-- The values that an array or an object holds. -/
def children : Json → List Json
  | array items => items
  | object members => members.map (·.2)
  | null | bool _ | int _ | float _ | string _ => []

/-- What holds of an array or an object holds of all that it holds. -/
def Hereditary (H : Json → Prop) : Prop :=
  ∀ {value child : Json}, H value → child ∈ value.children → H child

/-- The values that stand in a value, itself among them. -/
inductive Holds (outer : Json) : Json → Prop where
  | self : Holds outer outer
  | inside {middle inner : Json} (holds : Holds outer middle) (child : inner ∈ middle.children) :
      Holds outer inner

theorem Holds.of_child {outer child inner : Json} (member : child ∈ outer.children)
    (holds : child.Holds inner) : outer.Holds inner := by
  induction holds with
  | self => exact .inside .self member
  | inside _ child ih => exact .inside ih child

theorem Holds.self_or_child {outer inner : Json} (holds : outer.Holds inner) :
    inner = outer ∨ ∃ child ∈ outer.children, child.Holds inner := by
  induction holds with
  | self => exact .inl rfl
  | inside _ member ih =>
    rcases ih with rfl | ⟨child, first, holds⟩
    · exact .inr ⟨_, member, .self⟩
    · exact .inr ⟨child, first, .inside holds member⟩

/-- What holds of a value and of all that stands in it. -/
def Throughout (P : Json → Prop) (value : Json) : Prop := ∀ inner, value.Holds inner → P inner

theorem throughout_iff {P : Json → Prop} {value : Json} : Throughout P value ↔
    P value ∧ ∀ child ∈ value.children, Throughout P child := by
  constructor
  · exact fun all => ⟨all _ .self, fun child member inner holds => all inner (.of_child member holds)⟩
  · rintro ⟨here, each⟩ inner holds
    rcases holds.self_or_child with rfl | ⟨child, member, holds⟩
    · exact here
    · exact each child member inner holds

theorem Throughout.mono {P Q : Json → Prop} {value : Json} (all : Throughout P value)
    (implies : ∀ inner, P inner → Q inner) : Throughout Q value :=
  fun inner holds => implies inner (all inner holds)

theorem throughout_hereditary (P : Json → Prop) : Hereditary (Throughout P) :=
  fun all member => (throughout_iff.mp all).2 _ member

theorem throughout_object {P : Json → Prop} {members : List (String × Json)} :
    Throughout P (object members) ↔
      P (object members) ∧ ∀ entry ∈ members, Throughout P entry.2 := by
  rw [throughout_iff, children, List.forall_mem_map]

theorem throughout_array {P : Json → Prop} {items : List Json} : Throughout P (array items) ↔
    P (array items) ∧ ∀ item ∈ items, Throughout P item :=
  throughout_iff

/-- In a value that is neither an array nor an object stands nothing else. -/
theorem throughout_scalar {P : Json → Prop} {value : Json} (here : P value)
    (alone : value.children = []) : Throughout P value := by
  rw [throughout_iff, alone]
  exact ⟨here, List.forall_mem_nil _⟩

/-- Induction from the values that are nested less deeply. -/
theorem nesting_induction {P : Json → Prop}
    (step : ∀ value, (∀ inner, inner.nesting < value.nesting → P inner) → P value)
    (value : Json) : P value := by
  induction deep : value.nesting using Nat.strongRecOn generalizing value with
  | ind depth ih =>
    subst deep
    exact step value fun inner less => ih inner.nesting less inner rfl

end Json

end GeoChain
