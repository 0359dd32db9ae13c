import GeoChain.Dataset.Name
import GeoChain.Proofs.Text.Split
import GeoChain.Proofs.Uuid
import Mathlib

/-!
# The pieces of a name

Names of datasets are glued together with underscores. If every `@` is taken as an underscore and a
piece is taken with an underscore before it, gluing is concatenation. Where no text ends in two
different pieces, the pieces of a name are read off one by one, from its end.
-/

namespace GeoChain

section Apart

variable {α : Type} {β : Type}

/-- No text ends in the pieces of both, unless the two are the same. -/
def Apart (piece : α → List β) (one other : α) : Prop :=
  ∀ text, piece one <:+ text → piece other <:+ text → one = other

variable {piece : α → List β} {one other : α}

/-- The last piece of a text, and what stands before it. -/
theorem Apart.last (apart : Apart piece one other) {front back : List β}
    (same : front ++ piece one = back ++ piece other) : one = other ∧ front = back := by
  have ends : piece other <:+ front ++ piece one := by
    rw [same]
    exact List.suffix_append _ _
  obtain rfl := apart _ (List.suffix_append _ _) ends
  exact ⟨rfl, List.append_cancel_right same⟩

/-- Of two pieces that a text ends in, the longer one ends in the shorter one. -/
theorem apart_iff : Apart piece one other ↔
    (piece one <:+ piece other → one = other) ∧ (piece other <:+ piece one → one = other) := by
  constructor
  · intro apart
    exact ⟨fun ends => apart _ ends List.suffix_rfl, fun ends => apart _ List.suffix_rfl ends⟩
  · rintro ⟨shorter, longer⟩ text ends alsoEnds
    rcases List.suffix_or_suffix_of_suffix ends alsoEnds with inside | inside
    · exact shorter inside
    · exact longer inside

instance [DecidableEq α] [DecidableEq β] : Decidable (Apart piece one other) :=
  decidable_of_iff _ apart_iff.symm

/-- Two sequences of pieces that a text ends in are the same until one of them is used up. -/
theorem pieces_of_suffix {first second : List α} {front back : List β}
    (apart : ∀ one ∈ first, ∀ other ∈ second, Apart piece one other)
    (same : front ++ first.flatMap piece = back ++ second.flatMap piece) :
    (∃ more, first = more ++ second ∧ back = front ++ more.flatMap piece) ∨
      ∃ more, second = more ++ first ∧ front = back ++ more.flatMap piece := by
  -- Only the end of the text is known to be a piece, so both sequences are taken apart from there.
  induction first using List.reverseRecOn generalizing second with
  | nil =>
    right
    exact ⟨second, by simp, by simpa using same⟩
  | append_singleton first one ih =>
    rcases List.eq_nil_or_concat second with rfl | ⟨rest, other, rfl⟩
    · left
      exact ⟨first ++ [one], by simp, by simpa using same.symm⟩
    · rw [List.concat_eq_append] at apart same ⊢
      simp only [List.flatMap_append, List.flatMap_singleton, ← List.append_assoc] at same
      obtain ⟨rfl, before⟩ := (apart one (by simp) other (by simp)).last same
      have within : ∀ one ∈ first, ∀ other ∈ rest, Apart piece one other :=
        fun one member other among =>
          apart one (List.mem_append_left _ member) other (List.mem_append_left _ among)
      rcases ih within before with ⟨more, split, front⟩ | ⟨more, split, back⟩
      · left
        exact ⟨more, by rw [split, List.append_assoc], front⟩
      · right
        exact ⟨more, by rw [split, List.append_assoc], back⟩

/-- Equally many pieces that a text ends in are the same. -/
theorem pieces_of_length {first second : List α} {front back : List β}
    (apart : ∀ one ∈ first, ∀ other ∈ second, Apart piece one other)
    (length : first.length = second.length)
    (same : front ++ first.flatMap piece = back ++ second.flatMap piece) : first = second := by
  rcases pieces_of_suffix apart same with ⟨more, split, -⟩ | ⟨more, split, -⟩
  · have none : more = [] := List.length_eq_zero_iff.mp (by simpa [split] using length)
    simpa [none] using split
  · have none : more = [] := List.length_eq_zero_iff.mp (by simpa [split] using length)
    simpa [none] using split.symm

/-- So are two whole texts of pieces, if no piece is empty. -/
theorem pieces_of_eq {first second : List α} (nonempty : ∀ one, piece one ≠ [])
    (apart : ∀ one ∈ first, ∀ other ∈ second, Apart piece one other)
    (same : first.flatMap piece = second.flatMap piece) : first = second := by
  have nothing : ∀ more : List α, [] = more.flatMap piece → more = [] := by
    intro more empty
    cases more with
    | nil => rfl
    | cons one rest =>
      rw [List.flatMap_cons] at empty
      exact absurd (List.append_eq_nil_iff.mp empty.symm).1 (nonempty one)
  have framed : [] ++ first.flatMap piece = [] ++ second.flatMap piece := same
  rcases pieces_of_suffix apart framed with ⟨more, split, empty⟩ | ⟨more, split, empty⟩
  · simpa [nothing more empty] using split
  · simpa [nothing more empty] using split.symm

end Apart

namespace Dataset

/-- A character as it counts in names: an underscore for `@`. -/
def counted (c : Char) : Char := if c = '@' then '_' else c

def plain (name : String) : List Char := name.toList.map counted

/-- A name as a piece of longer names. -/
def marked (name : String) : List Char := '_' :: plain name

theorem marked_ne_nil (name : String) : marked name ≠ [] := List.cons_ne_nil _ _

theorem plain_append (first rest : String) : plain (first ++ rest) = plain first ++ plain rest := by
  rw [plain, String.toList_append, List.map_append, plain, plain]

theorem plain_glued (first rest : String) :
    plain (first ++ "_" ++ rest) = plain first ++ marked rest := by
  rw [plain_append, plain_append, List.append_assoc]
  rfl

theorem marked_glued (first rest : String) :
    marked (first ++ "_" ++ rest) = marked first ++ marked rest := by
  rw [marked, plain_glued]
  rfl

/-- Where there is no `@`, nothing is lost. -/
theorem plain_eq_toList {name : String} (clean : '@' ∉ name.toList) : plain name = name.toList := by
  refine (List.map_congr_left fun c member => ?_).trans (List.map_id _)
  have other : c ≠ '@' := fun same => clean (same ▸ member)
  exact if_neg other

theorem plain_stem (dataset : String) : plain (stem dataset) = plain dataset := by
  rw [plain, stem, String.toList_ofList, stemChars]
  split
  · rename_i layer mapset found
    rw [plain, Text.splitFirst?_eq_some found, List.map_append, List.map_append]
    rfl
  · rfl

theorem marked_stem (dataset : String) : marked (stem dataset) = marked dataset := by
  rw [marked, plain_stem, marked]

theorem marked_joined (datasets : List String) (process : String) :
    marked (joined datasets process) = datasets.flatMap marked ++ marked process := by
  induction datasets with
  | nil => rfl
  | cons dataset rest ih =>
    rw [joined, marked_glued, marked_stem, ih, List.flatMap_cons, List.append_assoc]

theorem length_literalKey (literal : String) : (literalKey literal).toList.length = 8 := by
  rw [literalKey, String.toList_ofList, List.length_take, Uuid.plain, Uuid.length_hexDigits]
  rfl

theorem notMem_literalKey {c : Char} (notHex : ∀ n < 16, Nat.digitChar n ≠ c) (literal : String) :
    c ∉ (literalKey literal).toList := by
  rw [literalKey, String.toList_ofList]
  intro member
  exact Uuid.not_mem_hexDigits notHex 32 _ (List.mem_of_mem_take member)

theorem at_not_mem_literalKey (literal : String) : '@' ∉ (literalKey literal).toList :=
  notMem_literalKey (by decide) literal

end Dataset

end GeoChain
