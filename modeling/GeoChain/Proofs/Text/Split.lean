import GeoChain.Text.Split

/-!
# What a text is cut into

The parts of a cut give the text back, and the mark does not stand before the cut. A text without
the mark is not cut. What is joined with marks between the parts is split into the same parts again
exactly if there is one and none of them has the mark.
-/

namespace GeoChain

namespace Text

variable {mark : Char} {chars before after : List Char}

theorem splitFirst?_cons (mark c : Char) (rest : List Char) :
    splitFirst? mark (c :: rest) = if c = mark then some ([], rest) else
      (splitFirst? mark rest).map fun (before, after) => (c :: before, after) :=
  rfl

theorem splitFirst?_eq_some (found : splitFirst? mark chars = some (before, after)) :
    chars = before ++ mark :: after := by
  induction chars generalizing before with
  | nil => cases found
  | cons c rest ih =>
    rw [splitFirst?_cons] at found
    split at found
    · rename_i here
      cases found
      rw [here, List.nil_append]
    · obtain ⟨⟨lead, tail⟩, inner, same⟩ := Option.map_eq_some_iff.mp found
      cases same
      rw [ih inner, List.cons_append]

theorem splitFirst?_eq_none : splitFirst? mark chars = none ↔ mark ∉ chars := by
  induction chars with
  | nil => exact iff_of_true rfl List.not_mem_nil
  | cons c rest ih =>
    rw [splitFirst?_cons]
    by_cases here : c = mark
    · simp [here]
    · rw [if_neg here, Option.map_eq_none_iff, ih, List.mem_cons, not_or]
      exact (and_iff_right (Ne.symm here)).symm

/-- A cut is made at the first mark and nowhere else. -/
theorem splitFirst?_append (absent : mark ∉ before) (after : List Char) :
    splitFirst? mark (before ++ mark :: after) = some (before, after) := by
  induction before with
  | nil => exact if_pos rfl
  | cons c rest ih =>
    have other : c ≠ mark := Ne.symm (List.ne_of_not_mem_cons absent)
    have later := ih (List.not_mem_of_not_mem_cons absent)
    rw [List.cons_append, splitFirst?_cons, if_neg other, later]
    rfl

theorem cutAt_of_notMem (absent : mark ∉ chars) : cutAt mark chars = (chars, none) := by
  rw [cutAt, splitFirst?_eq_none.mpr absent]

theorem split_cons_mark (mark : Char) (rest : List Char) :
    split mark (mark :: rest) = [] :: split mark rest :=
  if_pos rfl

/-- A character other than the mark belongs to the first part. -/
theorem split_cons_of_ne {c : Char} (other : c ≠ mark) {rest part : List Char}
    {parts : List (List Char)} (later : split mark rest = part :: parts) :
    split mark (c :: rest) = (c :: part) :: parts := by
  refine (if_neg other).trans ?_
  rw [later]

theorem split_ne_nil (mark : Char) (chars : List Char) : split mark chars ≠ [] := by
  induction chars with
  | nil => exact List.cons_ne_nil _ _
  | cons c rest ih =>
    by_cases here : c = mark
    · subst here
      rw [split_cons_mark]
      exact List.cons_ne_nil _ _
    · obtain ⟨part, parts, later⟩ := List.exists_cons_of_ne_nil ih
      rw [split_cons_of_ne here later]
      exact List.cons_ne_nil _ _

theorem split_of_notMem (absent : mark ∉ chars) : split mark chars = [chars] := by
  induction chars with
  | nil => rfl
  | cons c rest ih =>
    have other : c ≠ mark := Ne.symm (List.ne_of_not_mem_cons absent)
    exact split_cons_of_ne other (ih (List.not_mem_of_not_mem_cons absent))

/-- No part has the mark. -/
theorem notMem_of_mem_split {part : List Char} (member : part ∈ split mark chars) :
    mark ∉ part := by
  induction chars generalizing part with
  | nil => simp [List.mem_singleton.mp member]
  | cons c rest ih =>
    by_cases here : c = mark
    · subst here
      rw [split_cons_mark] at member
      rcases List.mem_cons.mp member with rfl | later
      · exact List.not_mem_nil
      · exact ih later
    · obtain ⟨first, parts, later⟩ := List.exists_cons_of_ne_nil (split_ne_nil mark rest)
      rw [split_cons_of_ne here later] at member
      rw [later] at ih
      rcases List.mem_cons.mp member with rfl | among
      · exact List.not_mem_cons_of_ne_of_not_mem (Ne.symm here) (ih List.mem_cons_self)
      · exact ih (List.mem_cons_of_mem _ among)

/-- Every character but the mark belongs to a part. -/
theorem mem_split (mark : Char) {c : Char} (member : c ∈ chars) :
    c = mark ∨ ∃ part ∈ split mark chars, c ∈ part := by
  induction chars with
  | nil => cases member
  | cons d rest ih =>
    by_cases here : d = mark
    · subst here
      rw [split_cons_mark]
      rcases List.mem_cons.mp member with same | later
      · exact Or.inl same
      · rcases ih later with same | ⟨part, among, inside⟩
        · exact Or.inl same
        · exact Or.inr ⟨part, List.mem_cons_of_mem _ among, inside⟩
    · obtain ⟨first, parts, after⟩ := List.exists_cons_of_ne_nil (split_ne_nil mark rest)
      rw [split_cons_of_ne here after]
      rw [after] at ih
      rcases List.mem_cons.mp member with rfl | later
      · exact Or.inr ⟨_, List.mem_cons_self, List.mem_cons_self⟩
      · rcases ih later with same | ⟨part, among, inside⟩
        · exact Or.inl same
        · rcases List.mem_cons.mp among with rfl | among
          · exact Or.inr ⟨_, List.mem_cons_self, List.mem_cons_of_mem _ inside⟩
          · exact Or.inr ⟨part, List.mem_cons_of_mem _ among, inside⟩

theorem split_append_mark (mark : Char) (first rest : List Char) :
    split mark (first ++ mark :: rest) = split mark first ++ split mark rest := by
  induction first with
  | nil => exact split_cons_mark mark rest
  | cons c first ih =>
    by_cases here : c = mark
    · subst here
      rw [List.cons_append, split_cons_mark, split_cons_mark, ih, List.cons_append]
    · obtain ⟨part, parts, inner⟩ := List.exists_cons_of_ne_nil (split_ne_nil mark first)
      rw [inner, List.cons_append] at ih
      rw [List.cons_append, split_cons_of_ne here ih, split_cons_of_ne here inner,
        List.cons_append]

/-- What is joined is split into the parts of each. -/
theorem split_intercalate (mark : Char) {parts : List (List Char)} (nonempty : parts ≠ []) :
    split mark (List.intercalate [mark] parts) = parts.flatMap (split mark) := by
  induction parts with
  | nil => exact absurd rfl nonempty
  | cons part rest ih =>
    cases rest with
    | nil => simp
    | cons next rest =>
      rw [List.intercalate_cons_cons, List.append_assoc, List.singleton_append, split_append_mark,
        ih (List.cons_ne_nil _ _), List.flatMap_cons, List.flatMap_cons, List.flatMap_cons]

theorem split_intercalate_eq_iff {parts : List (List Char)} :
    split mark (List.intercalate [mark] parts) = parts ↔
      parts ≠ [] ∧ ∀ part ∈ parts, mark ∉ part := by
  constructor
  · intro same
    refine ⟨same ▸ split_ne_nil mark _, fun part member => ?_⟩
    exact notMem_of_mem_split (same.symm ▸ member)
  · rintro ⟨nonempty, plain⟩
    have whole : parts.map (split mark) = parts.map fun part => [part] :=
      List.map_congr_left fun part member => split_of_notMem (plain part member)
    rw [split_intercalate mark nonempty, List.flatMap_def, whole, ← List.flatMap_def,
      List.flatMap_singleton']

/-- A part is found again exactly if it does not have the mark, whatever the others are. -/
theorem mem_split_intercalate {parts : List (List Char)} {part : List Char}
    (member : part ∈ parts) :
    part ∈ split mark (List.intercalate [mark] parts) ↔ mark ∉ part := by
  refine ⟨notMem_of_mem_split, fun plain => ?_⟩
  rw [split_intercalate mark (List.ne_nil_of_mem member)]
  exact List.mem_flatMap.mpr ⟨part, member, split_of_notMem plain ▸ List.mem_cons_self⟩

end Text

end GeoChain
