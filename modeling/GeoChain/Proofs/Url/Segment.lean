import GeoChain.Proofs.Url.Percent
import GeoChain.Url.Reader

/-!
# Walking through segments

Segments are entered one by one: a dot segment goes up or stays, and any other segment is written
behind the path. So a path that was walked through starts with a part of the path where the walk
began and goes on with segments. A name without slashes is one segment if it has no backslash, if
nothing in it is ignored, and if it is no dot segment; otherwise the walk through it never ends
where its name would.
-/

namespace GeoChain

namespace Url

variable {scheme : String} {path : List (List Char)} {name : List Char}

/-! ## Cutting at slashes -/

theorem splitSlashes_ne_nil (scheme : String) (chars : List Char) :
    splitSlashes scheme chars ≠ [] := by
  cases chars with
  | nil => exact List.cons_ne_nil _ _
  | cons c rest =>
    rw [splitSlashes]
    repeat' split
    all_goals exact List.cons_ne_nil _ _

theorem splitSlashes_append (first rest : List Char) :
    splitSlashes scheme (first ++ '/' :: rest) =
      splitSlashes scheme first ++ splitSlashes scheme rest := by
  induction first with
  | nil => simp [splitSlashes, isSlash]
  | cons c first ih =>
    rw [List.cons_append, splitSlashes, splitSlashes]
    split
    · rw [ih, List.cons_append]
    · rw [ih]
      obtain ⟨part, parts, cut⟩ := List.exists_cons_of_ne_nil (splitSlashes_ne_nil scheme first)
      rw [cut, List.cons_append]
      rfl

theorem splitSlashes_of_plain {chars : List Char} (plain : ∀ c ∈ chars, ¬ isSlash scheme c) :
    splitSlashes scheme chars = [chars] := by
  induction chars with
  | nil => rfl
  | cons c rest ih =>
    obtain ⟨here, later⟩ := List.forall_mem_cons.mp plain
    rw [splitSlashes, if_neg here, ih later]

theorem mem_splitSlashes {chars part : List Char} (member : part ∈ splitSlashes scheme chars) :
    ∀ c ∈ part, ¬ isSlash scheme c := by
  induction chars generalizing part with
  | nil =>
    rw [splitSlashes, List.mem_singleton] at member
    simp [member]
  | cons c rest ih =>
    rw [splitSlashes] at member
    split at member
    · rcases List.mem_cons.mp member with rfl | later
      · simp
      · exact ih later
    · rename_i here
      split at member
      · rename_i first parts cut
        rcases List.mem_cons.mp member with rfl | later
        · exact List.forall_mem_cons.mpr ⟨here, ih (cut ▸ List.mem_cons_self)⟩
        · exact ih (cut ▸ List.mem_cons_of_mem _ later)
      · rename_i cut
        exact absurd cut (splitSlashes_ne_nil scheme rest)

/-! ## Walking through segments -/

/-- The path after a segment that something follows. -/
def enter (path : List (List Char)) (segment : List Char) : List (List Char) :=
  if isDoubleDot segment then withoutLast path
  else if isSingleDot segment then path
  else path ++ [encode inPath segment]

/-- The path after several such segments. -/
def walk (path segments : List (List Char)) : List (List Char) := segments.foldl enter path

theorem written_of_notFile (notFile : scheme ≠ "file") (segment : List Char) :
    written scheme path segment = encode inPath segment := by
  rw [written, if_neg (by simp [notFile])]

/-- A path is extended by walking through all segments but the last one. -/
theorem extend_concat (notFile : scheme ≠ "file") {segments : List (List Char)} {last : List Char}
    (notDouble : isDoubleDot last = false) (notSingle : isSingleDot last = false) :
    extend scheme path (segments ++ [last]) = walk path segments ++ [encode inPath last] := by
  induction segments generalizing path with
  | nil => simp [extend, walk, notDouble, notSingle, written_of_notFile notFile]
  | cons segment rest ih =>
    obtain ⟨next, others, following⟩ :=
      List.exists_cons_of_ne_nil (show rest ++ [last] ≠ [] by simp)
    have step : extend scheme path (segment :: (rest ++ [last])) =
        extend scheme (enter path segment) (rest ++ [last]) := by
      rw [following, extend, enter, written_of_notFile notFile]
      · split
        · rfl
        · split
          · rfl
          · rfl
      · simp
    rw [List.cons_append, step, ih, walk, walk, List.foldl_cons]

/-- What is walked through starts with a part of the path and goes on with segments. -/
theorem walk_shape (path segments : List (List Char)) : ∃ kept, ∃ made : List (List Char),
    walk path segments = kept ++ made.map (encode inPath) ∧ kept <+: path ∧
      ∀ segment ∈ made, segment ∈ segments := by
  induction segments generalizing path with
  | nil => exact ⟨path, [], by simp [walk], List.prefix_rfl, by simp⟩
  | cons segment rest ih =>
    obtain ⟨kept, made, shape, early, late⟩ := ih (enter path segment)
    have later : ∀ part ∈ made, part ∈ segment :: rest :=
      fun part member => List.mem_cons_of_mem _ (late part member)
    have whole : walk path (segment :: rest) = kept ++ made.map (encode inPath) := shape
    rw [enter] at early
    split at early
    · refine ⟨kept, made, whole, early.trans ?_, later⟩
      rw [withoutLast]
      split
      · exact List.prefix_rfl
      · exact List.dropLast_prefix path
    · split at early
      · exact ⟨kept, made, whole, early, later⟩
      · rcases List.prefix_concat_iff.mp early with all | part
        · refine ⟨path, segment :: made, ?_, List.prefix_rfl, ?_⟩
          · rw [whole, all, List.map_cons, List.append_assoc, List.singleton_append]
          · exact List.forall_mem_cons.mpr ⟨List.mem_cons_self, later⟩
        · exact ⟨kept, made, whole, part, later⟩

/-- Where one name was added to the path, it is the one of a segment. -/
theorem segment_of_walk {segments : List (List Char)} {added : List Char}
    (walked : walk path segments = path ++ [added]) :
    ∃ segment ∈ segments, added = encode inPath segment := by
  obtain ⟨kept, made, shape, early, late⟩ := walk_shape path segments
  rcases List.eq_nil_or_concat made with rfl | ⟨others, last, rfl⟩
  · rw [walked, List.map_nil, List.append_nil] at shape
    have longer := early.length_le
    rw [← shape, List.length_append, List.length_singleton] at longer
    omega
  · rw [walked, List.concat_eq_append, List.map_append, ← List.append_assoc] at shape
    exact ⟨last, late last (by simp), List.singleton_inj.mp (List.append_inj' shape rfl).2⟩

/-- What is read of a text. -/
def heeded (chars : List Char) : List Char := chars.filter fun c => !isIgnored c

theorem heeded_append (first rest : List Char) :
    heeded (first ++ rest) = heeded first ++ heeded rest := List.filter_append first rest

theorem heeded_cons {c : Char} (plain : ¬ isIgnored c) (rest : List Char) :
    heeded (c :: rest) = c :: heeded rest := List.filter_cons_of_pos (by simp [plain])

/-- A name that stays one segment of a path. -/
def IsOneSegment (name : List Char) : Prop :=
  '\\' ∉ name ∧ (∀ c ∈ name, ¬ isIgnored c) ∧ ¬ isDoubleDot name ∧ ¬ isSingleDot name

instance (name : List Char) : Decidable (IsOneSegment name) :=
  decidable_of_iff ('\\' ∉ name ∧ name.all (fun c => !isIgnored c) ∧ ¬ isDoubleDot name ∧
    ¬ isSingleDot name) (by simp [IsOneSegment])

theorem length_withoutLast (path : List (List Char)) :
    (withoutLast path).length ≤ path.length := by
  rw [withoutLast]
  split
  · exact Nat.le_refl _
  · exact (List.dropLast_prefix path).length_le

/-- A path grows by a segment if that is no dot segment. -/
theorem enter_eq_append {added : List Char} :
    enter path name = path ++ [added] ↔
      added = encode inPath name ∧ ¬ isDoubleDot name ∧ ¬ isSingleDot name := by
  have grows : path.length < (path ++ [added]).length := by simp
  rw [enter]
  split
  · rename_i double
    refine iff_of_false (fun same => ?_) (fun dots => dots.2.1 double)
    have shrinks := length_withoutLast path
    rw [same] at shrinks
    omega
  · split
    · rename_i single
      refine iff_of_false (fun same => ?_) (fun dots => dots.2.2 single)
      rw [← same] at grows
      omega
    · rename_i notDouble notSingle
      simp [notDouble, notSingle, eq_comm]

/-- What is read of a name leads where the name would as one segment, just if it is one. -/
theorem walk_name (special : isSpecial scheme) (noSlash : '/' ∉ name) :
    walk path (splitSlashes scheme (heeded name)) = path ++ [encode inPath name] ↔
      IsOneSegment name := by
  have slash : ∀ c, isSlash scheme c ↔ c = '/' ∨ c = '\\' := by simp [isSlash, special]
  have whole : '\\' ∉ name → splitSlashes scheme (heeded name) = [heeded name] := by
    intro noBackslash
    refine splitSlashes_of_plain fun c member cuts => ?_
    obtain ⟨inside, -⟩ := List.mem_filter.mp member
    rcases (slash c).mp cuts with rfl | rfl
    · exact noSlash inside
    · exact noBackslash inside
  constructor
  · intro walked
    obtain ⟨segment, member, same⟩ := segment_of_walk walked
    have left : encodeChar inPath '\\' = ['\\'] := by decide
    have noBackslash : '\\' ∉ name := by
      rw [← mem_encode left (by decide) (by decide), same, mem_encode left (by decide) (by decide)]
      exact fun inside => mem_splitSlashes member _ inside ((slash _).mpr (.inr rfl))
    rw [whole noBackslash] at walked member
    rw [List.mem_singleton.mp member] at same
    have kept := (length_encode_filter _ name).2 (congrArg List.length same.symm)
    rw [heeded, List.filter_eq_self.mpr kept] at walked
    exact ⟨noBackslash, by simpa using kept, (enter_eq_append.mp walked).2⟩
  · rintro ⟨noBackslash, kept, dots⟩
    rw [whole noBackslash, heeded, List.filter_eq_self.mpr (by simpa using kept)]
    exact enter_eq_append.mpr ⟨rfl, dots⟩

end Url

end GeoChain
