/-!
# Associations in key order

A finite map from names to values is a list of pairs whose names increase. Inserting replaces the
value of a name that is already there, so the last write wins. The order of names is that of their
UTF-8 bytes, which is also the order of their code points. The look-up laws below need no
hypothesis on the list.
-/

namespace GeoChain

namespace Keyed

universe u

variable {α : Type u}

def find? (name : String) : List (String × α) → Option α
  | [] => none
  | (other, held) :: rest => if other = name then some held else find? name rest

def insert (name : String) (value : α) : List (String × α) → List (String × α)
  | [] => [(name, value)]
  | (other, held) :: rest =>
    if name < other then (name, value) :: (other, held) :: rest
    else if other = name then (name, value) :: rest
    else (other, held) :: insert name value rest

def erase (name : String) (map : List (String × α)) : List (String × α) :=
  map.filter (fun entry => entry.1 ≠ name)

/-- Writes the entries of the second list over those of the first, in their order. -/
def overwrite (map entries : List (String × α)) : List (String × α) :=
  entries.foldl (fun held entry => insert entry.1 entry.2 held) map

def ofList (entries : List (String × α)) : List (String × α) := overwrite [] entries

def names (map : List (String × α)) : List String := map.map (·.1)

def Increasing (map : List (String × α)) : Prop := (names map).Pairwise (· < ·)

@[simp] theorem find?_nil (name : String) : find? name ([] : List (String × α)) = none := rfl

theorem find?_insert_self (name : String) (value : α) (map : List (String × α)) :
    find? name (insert name value map) = some value := by
  induction map with
  | nil => simp [insert, find?]
  | cons entry rest ih =>
    obtain ⟨other, held⟩ := entry
    rw [insert]
    split
    · simp [find?]
    · split
      · simp [find?]
      · rename_i distinct
        simp [find?, distinct, ih]

theorem find?_insert_of_ne {name other : String} (distinct : name ≠ other) (value : α)
    (map : List (String × α)) : find? other (insert name value map) = find? other map := by
  induction map with
  | nil => simp [insert, find?, distinct]
  | cons entry rest ih =>
    obtain ⟨key, held⟩ := entry
    rw [insert]
    split
    · simp [find?, distinct]
    · split
      · rename_i same
        simp [find?, distinct, same]
      · by_cases found : key = other <;> simp [find?, found, ih]

theorem find?_erase_self (name : String) (map : List (String × α)) :
    find? name (erase name map) = none := by
  induction map with
  | nil => rfl
  | cons entry rest ih =>
    obtain ⟨key, held⟩ := entry
    by_cases same : key = name
    · simpa [erase, same] using ih
    · simpa [erase, find?, same] using ih

theorem find?_erase_of_ne {name other : String} (distinct : name ≠ other)
    (map : List (String × α)) : find? other (erase name map) = find? other map := by
  induction map with
  | nil => rfl
  | cons entry rest ih =>
    obtain ⟨key, held⟩ := entry
    by_cases same : key = name
    · have apart : key ≠ other := same ▸ distinct
      simpa [erase, find?, same, distinct] using ih
    · by_cases found : key = other
      · subst found
        simp [erase, find?, same]
      · simpa [erase, find?, same, found] using ih

end Keyed

end GeoChain
