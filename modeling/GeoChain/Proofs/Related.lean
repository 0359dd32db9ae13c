import GeoChain.Proofs.Keyed
import Mathlib.Data.List.Forall2
import Mathlib.Data.Option.Defs

/-!
# Related maps

Two maps are related if they have the same names in the same order and their values are related,
one by one. Operations that treat both alike keep that.
-/

namespace GeoChain

namespace Keyed

universe u

variable {α β : Type u} {R : α → β → Prop} {first : List (String × α)} {second : List (String × β)}

def Related (R : α → β → Prop) (first : List (String × α)) (second : List (String × β)) : Prop :=
  List.Forall₂ (fun one other => one.1 = other.1 ∧ R one.2 other.2) first second

theorem Related.names (related : Related R first second) : names first = names second := by
  induction related with
  | nil => rfl
  | @cons one other rest others same _ ih =>
    rw [Keyed.names, Keyed.names, List.map_cons, List.map_cons, same.1]
    exact congrArg (other.1 :: ·) ih

theorem Related.increasing (related : Related R first second) (increasing : Increasing first) :
    Increasing second := by
  rw [Increasing, ← related.names]
  exact increasing

theorem Related.find? (related : Related R first second) (name : String) :
    Option.Rel R (find? name first) (find? name second) := by
  induction related with
  | nil => exact .none
  | @cons one other rest others same _ ih =>
    obtain ⟨key, value⟩ := one
    obtain ⟨otherKey, otherValue⟩ := other
    obtain ⟨rfl, agree⟩ := same
    rw [Keyed.find?, Keyed.find?]
    by_cases here : key = name
    · rw [if_pos here, if_pos here]
      exact .some agree
    · rw [if_neg here, if_neg here]
      exact ih

theorem Related.insert (related : Related R first second) (name : String) {value : α}
    {other : β} (agree : R value other) :
    Related R (insert name value first) (insert name other second) := by
  induction related with
  | nil => exact .cons ⟨rfl, agree⟩ .nil
  | @cons one another rest others same tail ih =>
    obtain ⟨key, held⟩ := one
    obtain ⟨otherKey, otherHeld⟩ := another
    obtain ⟨rfl, agreeHeld⟩ := same
    rw [Keyed.insert, Keyed.insert]
    by_cases less : name < key
    · rw [if_pos less, if_pos less]
      exact .cons ⟨rfl, agree⟩ (.cons ⟨rfl, agreeHeld⟩ tail)
    · rw [if_neg less, if_neg less]
      by_cases here : key = name
      · rw [if_pos here, if_pos here]
        exact .cons ⟨rfl, agree⟩ tail
      · rw [if_neg here, if_neg here]
        exact .cons ⟨rfl, agreeHeld⟩ ih

theorem Related.erase (related : Related R first second) (name : String) :
    Related R (erase name first) (erase name second) := by
  induction related with
  | nil => exact .nil
  | @cons one other rest others same tail ih =>
    obtain ⟨key, value⟩ := one
    obtain ⟨otherKey, otherValue⟩ := other
    obtain ⟨rfl, agree⟩ := same
    by_cases here : key = name
    · simpa [Keyed.erase, here] using ih
    · have kept : ∀ {γ : Type u} (value : γ) (rest : List (String × γ)),
          Keyed.erase name ((key, value) :: rest) = (key, value) :: Keyed.erase name rest :=
        fun value rest => List.filter_cons_of_pos (by simpa using here)
      rw [kept, kept]
      exact .cons ⟨rfl, agree⟩ ih

theorem Related.overwrite (related : Related R first second) {entries : List (String × α)}
    {others : List (String × β)} (later : Related R entries others) :
    Related R (overwrite first entries) (overwrite second others) := by
  induction later generalizing first second with
  | nil => exact related
  | @cons one other rest others same _ ih =>
    obtain ⟨name, value⟩ := one
    obtain ⟨otherName, otherValue⟩ := other
    obtain ⟨rfl, agree⟩ := same
    exact ih (related.insert name agree)

theorem Related.ofList (related : Related R first second) :
    Related R (ofList first) (ofList second) :=
  Related.overwrite .nil related

theorem exists_of_mem_right {γ δ : Type u} {S : γ → δ → Prop} {ones : List γ} {others : List δ}
    (related : List.Forall₂ S ones others) {other : δ} (member : other ∈ others) :
    ∃ one ∈ ones, S one other := by
  induction related with
  | nil => cases member
  | cons agree _ ih =>
    rcases List.mem_cons.mp member with rfl | later
    · exact ⟨_, List.mem_cons_self, agree⟩
    · obtain ⟨one, inside, agreeLater⟩ := ih later
      exact ⟨one, List.mem_cons_of_mem _ inside, agreeLater⟩

theorem Related.of_mem (related : Related R first second) {name : String} {other : β}
    (member : (name, other) ∈ second) : ∃ value, (name, value) ∈ first ∧ R value other := by
  obtain ⟨⟨key, value⟩, inside, same, agree⟩ := exists_of_mem_right related member
  dsimp only at same
  exact ⟨value, same ▸ inside, agree⟩

/-- A list is related to some list if each of its items is related to something. -/
theorem exists_forall₂ {γ δ : Type u} {S : γ → δ → Prop} {ones : List γ} :
    (∃ others, List.Forall₂ S ones others) ↔ ∀ one ∈ ones, ∃ other, S one other := by
  induction ones with
  | nil => simp
  | cons one rest ih =>
    rw [List.forall_mem_cons, ← ih]
    constructor
    · rintro ⟨others, related⟩
      cases related with
      | cons agree tail => exact ⟨⟨_, agree⟩, _, tail⟩
    · rintro ⟨⟨other, agree⟩, others, tail⟩
      exact ⟨other :: others, .cons agree tail⟩

theorem related_exists :
    (∃ second, Related R first second) ↔ ∀ entry ∈ first, ∃ other, R entry.2 other := by
  simp [Related, exists_forall₂]

theorem related_map_left {γ : Type u} (f : γ → α) {entries : List (String × γ)} :
    Related R (entries.map fun entry => (entry.1, f entry.2)) second ↔
      Related (fun value other => R (f value) other) entries second :=
  List.forall₂_map_left_iff

theorem increasing_map {γ : Type u} (f : γ → α) {entries : List (String × γ)} :
    Increasing (entries.map fun entry => (entry.1, f entry.2)) ↔ Increasing entries := by
  simp [Increasing, names, Function.comp_def]

theorem related_self {S : α → α → Prop} :
    Related S first first ↔ ∀ entry ∈ first, S entry.2 entry.2 := by
  simp [Related, List.forall₂_same]

theorem related_image (f : α → β) :
    Related (fun value other => other = f value) first second ↔
      second = first.map fun entry => (entry.1, f entry.2) := by
  constructor
  · intro related
    induction related with
    | nil => rfl
    | @cons one other rest others same _ ih =>
      rw [List.map_cons, ← ih, same.1, ← same.2]
  · rintro rfl
    exact List.forall₂_map_right_iff.mpr (List.forall₂_same.mpr fun _ _ => ⟨rfl, rfl⟩)

/-- What is done to every value may be done before entries are written over a map, or after it. -/
theorem overwrite_map (f : α → β) (map entries : List (String × α)) :
    overwrite (map.map fun entry => (entry.1, f entry.2))
        (entries.map fun entry => (entry.1, f entry.2)) =
      (overwrite map entries).map fun entry => (entry.1, f entry.2) :=
  (related_image f).mp
    (((related_image f).mpr rfl).overwrite ((related_image f).mpr rfl))

theorem ofList_map (f : α → β) (entries : List (String × α)) :
    ofList (entries.map fun entry => (entry.1, f entry.2)) =
      (ofList entries).map fun entry => (entry.1, f entry.2) :=
  overwrite_map f [] entries

end Keyed

end GeoChain
