import GeoChain.Keyed
import Mathlib.Data.List.Sort

/-!
# Increasing names

Inserting and overwriting keep the names of a map increasing, and put nothing into it but what they
are given. In a map whose names increase, looking up finds every entry, and such a map is the map of
its own entries.
-/

namespace GeoChain

namespace Keyed

universe u

variable {α : Type u}

theorem increasing_nil : Increasing ([] : List (String × α)) := List.Pairwise.nil

theorem increasing_cons {entry : String × α} {rest : List (String × α)} :
    Increasing (entry :: rest) ↔ (∀ other ∈ rest, entry.1 < other.1) ∧ Increasing rest := by
  simp [Increasing, names]

theorem lt_of_not_lt_of_ne {a b : String} (notLess : ¬ a < b) (distinct : b ≠ a) : b < a := by
  by_cases less : b < a
  · exact less
  · exact absurd (String.le_antisymm (String.not_lt.mp notLess) (String.not_lt.mp less)) distinct

theorem mem_insert {name : String} {value : α} {map : List (String × α)} {entry : String × α}
    (member : entry ∈ insert name value map) : entry = (name, value) ∨ entry ∈ map := by
  induction map with
  | nil => simpa [insert] using member
  | cons first rest ih =>
    obtain ⟨other, held⟩ := first
    rw [insert] at member
    split at member
    · simpa using member
    · split at member
      · rcases List.mem_cons.mp member with here | later
        · exact Or.inl here
        · exact Or.inr (List.mem_cons_of_mem _ later)
      · rcases List.mem_cons.mp member with here | later
        · exact Or.inr (here ▸ List.mem_cons_self)
        · rcases ih later with here | later
          · exact Or.inl here
          · exact Or.inr (List.mem_cons_of_mem _ later)

theorem increasing_insert (name : String) (value : α) {map : List (String × α)}
    (increasing : Increasing map) : Increasing (insert name value map) := by
  induction map with
  | nil => simp [insert, Increasing, names]
  | cons first rest ih =>
    obtain ⟨other, held⟩ := first
    obtain ⟨above, tail⟩ := increasing_cons.mp increasing
    rw [insert]
    split
    · rename_i less
      refine increasing_cons.mpr ⟨?_, increasing⟩
      intro entry member
      rcases List.mem_cons.mp member with rfl | later
      · exact less
      · exact String.lt_trans less (above entry later)
    · rename_i notLess
      split
      · rename_i same
        subst same
        exact increasing_cons.mpr ⟨above, tail⟩
      · rename_i distinct
        refine increasing_cons.mpr ⟨?_, ih tail⟩
        intro entry member
        rcases mem_insert member with rfl | later
        · exact lt_of_not_lt_of_ne notLess distinct
        · exact above entry later

theorem mem_overwrite {map entries : List (String × α)} {entry : String × α}
    (member : entry ∈ overwrite map entries) : entry ∈ map ∨ entry ∈ entries := by
  induction entries generalizing map with
  | nil => exact Or.inl member
  | cons first rest ih =>
    rcases ih member with early | late
    · rcases mem_insert early with here | early
      · exact Or.inr (here ▸ List.mem_cons_self)
      · exact Or.inl early
    · exact Or.inr (List.mem_cons_of_mem _ late)

theorem increasing_overwrite {map : List (String × α)} (increasing : Increasing map)
    (entries : List (String × α)) : Increasing (overwrite map entries) := by
  induction entries generalizing map with
  | nil => exact increasing
  | cons first rest ih => exact ih (increasing_insert first.1 first.2 increasing)

theorem mem_ofList {entries : List (String × α)} {entry : String × α}
    (member : entry ∈ ofList entries) : entry ∈ entries := by
  rcases mem_overwrite member with early | late
  · simp at early
  · exact late

theorem increasing_ofList (entries : List (String × α)) : Increasing (ofList entries) :=
  increasing_overwrite increasing_nil entries

theorem mem_of_find? {name : String} {value : α} {map : List (String × α)}
    (found : find? name map = some value) : (name, value) ∈ map := by
  induction map with
  | nil => simp at found
  | cons first rest ih =>
    obtain ⟨other, held⟩ := first
    rw [find?] at found
    split at found
    · rename_i same
      cases found
      exact same ▸ List.mem_cons_self
    · exact List.mem_cons_of_mem _ (ih found)

theorem find?_of_mem {map : List (String × α)} (increasing : Increasing map) {name : String}
    {value : α} (member : (name, value) ∈ map) : find? name map = some value := by
  induction map with
  | nil => simp at member
  | cons first rest ih =>
    obtain ⟨other, held⟩ := first
    obtain ⟨above, tail⟩ := increasing_cons.mp increasing
    rcases List.mem_cons.mp member with here | later
    · cases here
      simp [find?]
    · have distinct : other ≠ name := String.ne_of_lt (above _ later)
      rw [find?, if_neg distinct]
      exact ih tail later

/-- Looking up in the images of the values of a map. -/
theorem find?_map {β : Type u} (f : String → α → β) (name : String) (map : List (String × α)) :
    find? name (map.map fun entry => (entry.1, f entry.1 entry.2)) =
      (find? name map).map (f name) := by
  induction map with
  | nil => rfl
  | cons first rest ih =>
    obtain ⟨other, held⟩ := first
    by_cases same : other = name
    · simp [find?, same]
    · simpa [find?, same] using ih

theorem find?_append (name : String) (map rest : List (String × α)) :
    find? name (map ++ rest) = (find? name map).or (find? name rest) := by
  induction map with
  | nil => rfl
  | cons first others ih =>
    rw [List.cons_append, find?, find?]
    split
    · rfl
    · exact ih

theorem find?_insert (name key : String) (value : α) (map : List (String × α)) :
    find? name (insert key value map) = if key = name then some value else find? name map := by
  by_cases same : key = name
  · rw [if_pos same, ← same, find?_insert_self]
  · rw [if_neg same, find?_insert_of_ne same]

theorem overwrite_cons (map rest : List (String × α)) (first : String × α) :
    overwrite map (first :: rest) = overwrite (insert first.1 first.2 map) rest := rfl

/-- Of the entries of one name, those that are written over a map count before those in it. -/
theorem find?_overwrite (name : String) (map entries : List (String × α)) :
    find? name (overwrite map entries) = (find? name (ofList entries)).or (find? name map) := by
  induction entries generalizing map with
  | nil => rfl
  | cons first rest ih =>
    rw [ofList, overwrite_cons, overwrite_cons, ih, ih, find?_insert, find?_insert,
      Option.or_assoc]
    by_cases same : first.1 = name
    · simp [same]
    · simp [same]

theorem find?_ofList_cons (name : String) (first : String × α) (rest : List (String × α)) :
    find? name (ofList (first :: rest)) =
      (find? name (ofList rest)).or (if first.1 = name then some first.2 else none) := by
  rw [ofList, overwrite_cons, find?_overwrite, find?_insert, find?_nil]

theorem find?_ofList_filter (keep : String → Bool) (name : String) (entries : List (String × α)) :
    find? name (ofList (entries.filter fun entry => keep entry.1)) =
      if keep name then find? name (ofList entries) else none := by
  induction entries with
  | nil => cases keep name <;> rfl
  | cons first rest ih =>
    by_cases kept : keep first.1
    · rw [List.filter_cons, if_pos kept, find?_ofList_cons, find?_ofList_cons, ih]
      by_cases same : first.1 = name
      · simp [← same, kept]
      · simp [same]
    · rw [List.filter_cons, if_neg kept, find?_ofList_cons, ih]
      by_cases same : first.1 = name
      · simp [← same, kept]
      · simp [same]

theorem find?_eq_none {name : String} {map : List (String × α)} :
    find? name map = none ↔ name ∉ names map := by
  induction map with
  | nil => simp [names]
  | cons first rest ih =>
    by_cases same : first.1 = name
    · simp [find?, names, same]
    · have distinct : name ≠ first.1 := fun equal => same equal.symm
      simpa [find?, names, same, distinct] using ih

theorem find?_ofList {entries : List (String × α)} (distinct : (names entries).Nodup)
    (name : String) : find? name (ofList entries) = find? name entries := by
  induction entries with
  | nil => rfl
  | cons first rest ih =>
    obtain ⟨fresh, tail⟩ := List.nodup_cons.mp distinct
    rw [find?_ofList_cons, ih tail, find?]
    by_cases same : first.1 = name
    · rw [if_pos same, if_pos same, find?_eq_none.mpr (same ▸ fresh), Option.none_or]
    · rw [if_neg same, if_neg same, Option.or_none]

theorem find?_ofList_eq_none {name : String} {entries : List (String × α)} :
    find? name (ofList entries) = none ↔ name ∉ names entries := by
  induction entries with
  | nil => simp [names, ofList, overwrite]
  | cons first rest ih =>
    rw [find?_ofList_cons, Option.or_eq_none_iff, ih]
    by_cases same : first.1 = name
    · simp [names, same]
    · have distinct : name ≠ first.1 := fun equal => same equal.symm
      simp [names, same, distinct]

/-- What is erased may have been inserted before or not. -/
theorem erase_insert (name : String) (value : α) (map : List (String × α)) :
    erase name (insert name value map) = erase name map := by
  induction map with
  | nil => simp [insert, erase]
  | cons first rest ih =>
    obtain ⟨other, held⟩ := first
    rw [insert]
    split
    · simp [erase]
    · split
      · rename_i same
        simp [erase, same]
      · rename_i distinct
        simpa [erase, distinct] using ih

theorem insert_of_above {name : String} (value : α) {map : List (String × α)}
    (above : ∀ entry ∈ map, entry.1 < name) : insert name value map = map ++ [(name, value)] := by
  induction map with
  | nil => rfl
  | cons first rest ih =>
    obtain ⟨other, held⟩ := first
    obtain ⟨less, aboveRest⟩ := List.forall_mem_cons.mp above
    have notLess : ¬ name < other := String.lt_asymm less
    rw [insert, if_neg notLess, if_neg (String.ne_of_lt less), ih aboveRest, List.cons_append]

theorem overwrite_of_increasing {map entries : List (String × α)}
    (increasing : Increasing (map ++ entries)) : overwrite map entries = map ++ entries := by
  induction entries generalizing map with
  | nil => exact (List.append_nil map).symm
  | cons first rest ih =>
    have above : ∀ entry ∈ map, entry.1 < first.1 := by
      rw [Increasing, names, List.map_append, List.pairwise_append] at increasing
      obtain ⟨-, -, apart⟩ := increasing
      intro entry member
      exact apart entry.1 (List.mem_map_of_mem member) first.1 List.mem_cons_self
    have shifted : map ++ first :: rest = (map ++ [first]) ++ rest := by simp
    rw [shifted] at increasing ⊢
    rw [overwrite_cons, insert_of_above first.2 above, ih increasing]

/-- A map whose names increase is the map of its entries. -/
theorem ofList_of_increasing {map : List (String × α)} (increasing : Increasing map) :
    ofList map = map :=
  overwrite_of_increasing increasing

/-- Entries in the order of their names. -/
def Before (one other : String × α) : Prop := one.1 < other.1

instance : Std.Irrefl (@Before α) := ⟨fun _ => String.lt_irrefl _⟩

instance : Std.Antisymm (@Before α) :=
  ⟨fun _ _ less greater => absurd greater (String.lt_asymm less)⟩

theorem increasing_iff {map : List (String × α)} : Increasing map ↔ map.Pairwise Before :=
  List.pairwise_map

/-- Two maps whose names increase are the same if looking up finds the same in both. -/
theorem eq_of_find? {first second : List (String × α)} (increasing : Increasing first)
    (alsoIncreasing : Increasing second) (same : ∀ name, find? name first = find? name second) :
    first = second := by
  refine (increasing_iff.mp increasing).eq_of_mem_iff (increasing_iff.mp alsoIncreasing)
    fun entry => ?_
  constructor
  · intro member
    exact mem_of_find? ((same entry.1).symm.trans (find?_of_mem increasing member))
  · intro member
    exact mem_of_find? ((same entry.1).trans (find?_of_mem alsoIncreasing member))

theorem find?_eq_some {map : List (String × α)} (increasing : Increasing map) {name : String}
    {value : α} : find? name map = some value ↔ (name, value) ∈ map :=
  ⟨mem_of_find?, find?_of_mem increasing⟩

theorem Increasing.nodup {map : List (String × α)} (increasing : Increasing map) :
    (names map).Nodup :=
  List.Pairwise.imp String.ne_of_lt increasing

theorem Increasing.filter {map : List (String × α)} (increasing : Increasing map)
    (keep : String × α → Bool) : Increasing (map.filter keep) :=
  increasing_iff.mpr (List.Pairwise.filter keep (increasing_iff.mp increasing))

theorem find?_filter {map : List (String × α)} (increasing : Increasing map)
    (keep : String × α → Bool) (name : String) :
    find? name (map.filter keep) = (find? name map).filter fun value => keep (name, value) := by
  refine Option.ext fun value => ?_
  rw [find?_eq_some (increasing.filter keep), List.mem_filter, Option.filter_eq_some_iff,
    find?_eq_some increasing]

/-- Of a list of entries a name may be erased before the map is made of them or after. -/
theorem erase_ofList (name : String) (entries : List (String × α)) :
    erase name (ofList entries) = ofList (erase name entries) := by
  refine eq_of_find? ((increasing_ofList entries).filter _) (increasing_ofList _) fun other => ?_
  have kept : find? other (ofList (erase name entries)) = _ :=
    find?_ofList_filter (fun key => key ≠ name) other entries
  rw [kept]
  by_cases here : other = name
  · rw [here, find?_erase_self, if_neg (by simp)]
  · rw [find?_erase_of_ne (Ne.symm here), if_pos (by simpa using here)]

end Keyed

end GeoChain
