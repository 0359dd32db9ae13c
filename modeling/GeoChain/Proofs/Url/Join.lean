import GeoChain.Proofs.Text.Split
import GeoChain.Proofs.Url.Segment

/-!
# Following a relative reference

A reference that is nothing but a path goes below the segments of its base. Words, which are made of
small letters and underscores, come through as they are; so a reference that puts a name between two
words leads below the first word, unless the name leads away.
-/

namespace GeoChain

namespace Url

variable {scheme : String} {path : List (List Char)} {name : List Char}

/-! ## Cutting a reference up -/

theorem cleaned_of_ends {first last : Char} {middle : List Char} (opens : ¬ isEdge first)
    (closes : ¬ isEdge last) :
    cleaned (first :: (middle ++ [last])) = heeded (first :: (middle ++ [last])) := by
  rw [cleaned, List.dropWhile_cons_of_neg opens, List.reverse_cons, List.reverse_append,
    List.reverse_singleton, List.singleton_append, List.cons_append,
    List.dropWhile_cons_of_neg closes]
  simp [heeded]

theorem cut_of_plain {chars : List Char} (noQuery : '?' ∉ chars) (noFragment : '#' ∉ chars) :
    cut chars = ⟨chars, none, none⟩ := by
  rw [cut, Text.cutAt_of_notMem noFragment]
  dsimp only
  rw [Text.cutAt_of_notMem noQuery]

/-- A slash before the first colon says that there is no scheme. -/
theorem scheme?_of_slash {first : List Char} (noColon : ':' ∉ first) (rest : List Char) :
    scheme? (first ++ '/' :: rest) = none := by
  rw [scheme?]
  split
  · rename_i lead after found
    have split := Text.splitFirst?_eq_some found
    have slash : '/' ∈ lead := by
      rcases List.append_eq_append_iff.mp split with ⟨more, grown, rest⟩ | ⟨more, grown, rest⟩
      · cases more with
        | nil => cases (List.cons.inj rest).1
        | cons c more =>
          rw [grown, (List.cons.inj rest).1]
          simp
      · cases more with
        | nil => cases (List.cons.inj rest).1
        | cons c more =>
          rw [grown, ← (List.cons.inj rest).1] at noColon
          exact absurd (by simp) noColon
    rw [if_neg]
    rintro ⟨-, all⟩
    exact absurd (List.all_eq_true.mp all _ slash) (by decide)
  · rfl

theorem following_of_notFile (notFile : scheme ≠ "file") (chars : List Char) :
    following scheme path chars = .segments (segmentsBehind scheme path chars) := by
  rw [following, pathOf, if_neg notFile]

/-- A reference that is nothing but a path without a slash in front goes behind the segments of its
base. -/
theorem join?_path {base : Url} (notFile : base.scheme ≠ "file") (based : base.canBeBase)
    {reference : String} {c : Char} {rest : List Char}
    (front : cut (cleaned reference.toList) = ⟨c :: rest, none, none⟩)
    (noScheme : scheme? (c :: rest) = none) (noSlash : ¬ isAnySlash c) :
    base.join? reference = some { base with
      path := .segments (segmentsBehind base.scheme base.lead (c :: rest)),
      query := none, fragment := none } := by
  have relative : relative? base (c :: rest) ⟨c :: rest, none, none⟩ = some (finish base
      (following base.scheme base.lead (c :: rest)) ⟨c :: rest, none, none⟩) := by
    rw [relative?, if_neg noSlash]
    rintro more rfl
    exact absurd rfl noSlash
  rw [join?, resolve?, front]
  simp only [noScheme, schemeless?, based, notFile, if_true, if_false, relative]
  rw [finish, following_of_notFile notFile]
  rfl

/-! ## A name between two words -/

def wordChars : List Char := "abcdefghijklmnopqrstuvwxyz_".toList

/-- A text of small letters and underscores. -/
def IsWord (chars : List Char) : Prop := chars ≠ [] ∧ ∀ c ∈ chars, c ∈ wordChars

instance (chars : List Char) : Decidable (IsWord chars) :=
  decidable_of_iff (chars ≠ [] ∧ chars.all wordChars.contains) (by simp [IsWord])

/-- What words are made of has no meaning in a reference. -/
theorem wordChar_plain {c : Char} (word : c ∈ wordChars) :
    ¬ isEdge c ∧ ¬ isIgnored c ∧ c ∉ ['/', '\\', ':', '?', '#'] ∧ encodeChar inPath c = [c] ∧
      c.toLower ∉ ['.', '%'] := by
  have all : wordChars.all fun c => decide (¬ isEdge c ∧ ¬ isIgnored c ∧
      c ∉ ['/', '\\', ':', '?', '#'] ∧ encodeChar inPath c = [c] ∧
      c.toLower ∉ ['.', '%']) := by decide +kernel
  exact of_decide_eq_true (List.all_eq_true.mp all c word)

namespace IsWord

variable {chars : List Char}

theorem encoded (word : IsWord chars) : encode inPath chars = chars := by
  have each : ∀ c ∈ chars, encodeChar inPath c = [c] :=
    fun c member => (wordChar_plain (word.2 c member)).2.2.2.1
  clear word
  induction chars with
  | nil => rfl
  | cons c rest ih =>
    obtain ⟨here, later⟩ := List.forall_mem_cons.mp each
    rw [encode, List.flatMap_cons, here]
    exact congrArg _ (ih later)

theorem notMem (word : IsWord chars) {mark : Char} (isMark : mark ∈ ['/', '\\', ':', '?', '#']) :
    mark ∉ chars :=
  fun member => (wordChar_plain (word.2 mark member)).2.2.1 isMark

theorem noDots (word : IsWord chars) : isDoubleDot chars = false ∧ isSingleDot chars = false := by
  obtain ⟨c, rest, rfl⟩ := List.exists_cons_of_ne_nil word.1
  have plain := (wordChar_plain (word.2 c List.mem_cons_self)).2.2.2.2
  simp only [List.mem_cons, List.not_mem_nil, or_false, not_or] at plain
  simp [isDoubleDot, isSingleDot, smallLetters, plain]

theorem kept (word : IsWord chars) : heeded chars = chars := by
  refine List.filter_eq_self.mpr fun c member => ?_
  simpa using (wordChar_plain (word.2 c member)).2.1

theorem oneSegment (word : IsWord chars) (scheme : String) :
    splitSlashes scheme chars = [chars] := by
  refine splitSlashes_of_plain fun c member slash => ?_
  rw [isSlash, Bool.or_eq_true, Bool.and_eq_true, decide_eq_true_eq, decide_eq_true_eq] at slash
  rcases slash with rfl | ⟨rfl, -⟩
  · exact word.notMem (by simp) member
  · exact word.notMem (by simp) member

end IsWord

/-- A name between two words, with slashes between them. -/
def between (first name last : List Char) : List Char := first ++ '/' :: (name ++ '/' :: last)

section Between

variable {first last : List Char}

theorem notMem_between (word : IsWord first) (alsoWord : IsWord last) {mark : Char}
    (isMark : mark = '?' ∨ mark = '#') (absent : mark ∉ name) :
    mark ∉ between first name last := by
  have other : mark ∈ ['/', '\\', ':', '?', '#'] ∧ mark ≠ '/' := by
    rcases isMark with rfl | rfl
    · decide
    · decide
  simp only [between, List.mem_append, List.mem_cons, not_or]
  exact ⟨word.notMem other.1, other.2, absent, other.2, alsoWord.notMem other.1⟩

/-- Only what is ignored of the name gets lost. -/
theorem cleaned_between (word : IsWord first) (alsoWord : IsWord last) :
    cleaned (between first name last) =
      between first (heeded name) last := by
  obtain ⟨c, rest, split⟩ := List.exists_cons_of_ne_nil word.1
  rcases List.eq_nil_or_concat last with none | ⟨others, d, alsoSplit⟩
  · exact absurd none alsoWord.1
  · rw [List.concat_eq_append] at alsoSplit
    have ends : between first name last =
        c :: ((rest ++ '/' :: (name ++ '/' :: others)) ++ [d]) := by
      rw [between, split, alsoSplit]
      simp only [List.cons_append, List.append_assoc]
    have opens := (wordChar_plain (word.2 c (split ▸ List.mem_cons_self))).1
    have closes := (wordChar_plain (alsoWord.2 d (by simp [alsoSplit]))).1
    rw [ends, cleaned_of_ends opens closes, ← ends, between, heeded_append, heeded_cons (by decide),
      heeded_append, heeded_cons (by decide), word.kept, alsoWord.kept, between]

theorem segmentsBehind_between (notFile : scheme ≠ "file") (word : IsWord first)
    (alsoWord : IsWord last) : segmentsBehind scheme path (between first name last) =
      walk (path ++ [first]) (splitSlashes scheme name) ++ [last] := by
  rw [segmentsBehind, between, splitSlashes_append, splitSlashes_append, word.oneSegment,
    alsoWord.oneSegment, ← List.append_assoc,
    extend_concat notFile alsoWord.noDots.1 alsoWord.noDots.2, alsoWord.encoded,
    List.singleton_append, walk, List.foldl_cons, enter, if_neg (by simp [word.noDots.1]),
    if_neg (by simp [word.noDots.2]), word.encoded]
  rfl

/-- Where a reference leads that puts a name between two words. -/
theorem join?_between {base : Url} (notFile : base.scheme ≠ "file") (based : base.canBeBase)
    {reference : String} (chars : reference.toList = between first name last)
    (word : IsWord first) (alsoWord : IsWord last) (noQuery : '?' ∉ name)
    (noFragment : '#' ∉ name) :
    base.join? reference = some { base with
      path := .segments
        (walk (base.lead ++ [first]) (splitSlashes base.scheme (heeded name)) ++ [last]),
      query := none, fragment := none } := by
  obtain ⟨c, rest, split⟩ := List.exists_cons_of_ne_nil word.1
  have front : cut (cleaned reference.toList) =
      ⟨between first (heeded name) last, none, none⟩ := by
    rw [chars, cleaned_between word alsoWord]
    refine cut_of_plain (notMem_between word alsoWord (.inl rfl) ?_)
      (notMem_between word alsoWord (.inr rfl) ?_)
    · exact fun member => noQuery (List.mem_filter.mp member).1
    · exact fun member => noFragment (List.mem_filter.mp member).1
  have noScheme : scheme? (between first (heeded name) last) = none :=
    scheme?_of_slash (word.notMem (by simp)) _
  have opens : between first (heeded name) last =
      c :: (rest ++ '/' :: (heeded name ++ '/' :: last)) := by
    rw [between, split, List.cons_append]
  have noSlash : ¬ isAnySlash c := by
    have member : c ∈ first := split ▸ List.mem_cons_self
    rw [isAnySlash, Bool.or_eq_true, decide_eq_true_eq, decide_eq_true_eq]
    rintro (rfl | rfl)
    · exact word.notMem (by simp) member
    · exact word.notMem (by simp) member
  rw [join?_path notFile based (opens ▸ front) (opens ▸ noScheme) noSlash, ← opens,
    segmentsBehind_between notFile word alsoWord]

end Between

/-! ## URLs that are a base -/

theorem lead_of_notFile {base : Url} (notFile : base.scheme ≠ "file") :
    base.lead = base.baseSegments.dropLast := by
  rw [lead]
  split
  · rename_i segment single
    rw [single, if_neg (by simp [notFile])]
    rfl
  · rfl

/-- The slash that closes a path is one empty segment behind those that references go below. -/
theorem directory_path {url : Url} (notFile : url.scheme ≠ "file") (based : url.canBeBase) :
    (url.path = .segments url.directory.lead ∧ url.directory.lead.getLast? ≠ some [] ∨
      url.path = .segments (url.directory.lead ++ [[]])) ∧
    url.directory.path = .segments (url.directory.lead ++ [[]]) := by
  have shared : url.directory.lead = url.directory.baseSegments.dropLast := lead_of_notFile notFile
  rw [shared, baseSegments, directory]
  dsimp only
  cases path : url.path with
  | whole text =>
    rw [canBeBase, path] at based
    cases based
  | segments parts =>
    rw [Path.closed]
    by_cases closed : parts.getLast? = some []
    · obtain ⟨above, rfl⟩ := List.getLast?_eq_some_iff.mp closed
      simp
    · simp [closed, notFile]

theorem rooted_segments (scheme : String) (chars : List Char) :
    ∃ segments, rooted scheme chars = .segments segments := by
  cases chars with
  | nil =>
    rw [rooted]
    split
    · exact ⟨_, rfl⟩
    · exact ⟨_, rfl⟩
  | cons c rest => exact ⟨_, rfl⟩

theorem withAuthority?_canBeBase {chars : List Char} {reference : Cut} {url : Url}
    (found : withAuthority? scheme chars reference = some url) : url.canBeBase := by
  rw [withAuthority?] at found
  dsimp only at found
  split at found
  · cases found
  · obtain ⟨⟨authority, beyond⟩, -, made⟩ := Option.bind_eq_some_iff.mp found
    cases made
    rw [canBeBase, finish]
    dsimp only
    obtain ⟨segments, path⟩ := rooted_segments scheme
      (beyond ++ chars.dropWhile fun c => !isSlash scheme c)
    rw [path]

theorem fileBelowHost?_canBeBase {chars : List Char} {reference : Cut} {url : Url}
    (found : fileBelowHost? chars reference = some url) : url.canBeBase := by
  rw [fileBelowHost?] at found
  split at found
  · cases found
    rfl
  · obtain ⟨host, -, rfl⟩ := Option.map_eq_some_iff.mp found
    split
    · rfl
    · rfl

theorem file?_canBeBase {chars : List Char} {reference : Cut} {url : Url}
    (found : file? none chars reference = some url) : url.canBeBase := by
  cases chars with
  | nil =>
    cases found
    rfl
  | cons c rest =>
    simp only [file?] at found
    split at found
    · split at found
      · split at found
        · exact fileBelowHost?_canBeBase found
        · cases found
          rfl
      · cases found
        rfl
    · cases found
      rfl

/-- A URL of a special scheme, read alone, can be a base. -/
theorem read?_canBeBase {text : String} {url : Url} (found : read? text = some url)
    (special : isSpecial url.scheme) : url.canBeBase := by
  rw [read?, resolve?] at found
  split at found
  · rename_i scheme rest named
    unfold absolute? at found
    split at found
    · exact file?_canBeBase found
    · split at found
      · exact withAuthority?_canBeBase found
      · rename_i plain
        split at found
        · exact withAuthority?_canBeBase found
        · cases found
          rfl
        · cases found
          exact absurd special plain
  · cases found

end Url

end GeoChain
