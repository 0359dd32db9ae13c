import GeoChain.Proofs.Graph.ProcessId
import Mathlib

/-!
# The pattern of process ids

The texts that are process ids are the words of `[A-Za-z0-9_]+`. Such a word is known by its
characters, as long as there are any. Putting an underscore for every other character makes a word
of each text but the empty one, for which a lone underscore stands. So the words are just the texts
that stay as they are when an id is made of them.
-/

namespace GeoChain

/-- A letter, a digit or an underscore, all of ASCII. -/
def IsWordChar (c : Char) : Prop :=
  'A' ≤ c ∧ c ≤ 'Z' ∨ 'a' ≤ c ∧ c ≤ 'z' ∨ '0' ≤ c ∧ c ≤ '9' ∨ c = '_'

instance (c : Char) : Decidable (IsWordChar c) := inferInstanceAs (Decidable (_ ∨ _))

/-- There are characters, and each of them is a letter, a digit or an underscore. -/
def IsWord (text : String) : Prop := text ≠ "" ∧ ∀ c ∈ text.toList, IsWordChar c

/-- The text with an underscore for every character that no word has. -/
def underscored (text : String) : String :=
  text.map fun c => if IsWordChar c then c else '_'

namespace Pattern

/-- One of the characters. -/
def oneOf (choices : List Char) : RegularExpression Char :=
  (choices.map RegularExpression.char).sum

/-- The characters from the first to the last, by their code points. -/
def span (first last : Char) : List Char :=
  (List.range' first.toNat (last.toNat + 1 - first.toNat)).map Char.ofNat

/-- The characters of `[A-Za-z0-9_]`. -/
def wordChars : List Char := span 'A' 'Z' ++ span 'a' 'z' ++ span '0' '9' ++ ['_']

/-- The pattern `[A-Za-z0-9_]+`, for a whole text up to its very end. -/
def word : RegularExpression Char := oneOf wordChars * (oneOf wordChars).star

variable {choices text : List Char} {c : Char}

theorem mem_oneOf : text ∈ (oneOf choices).matches' ↔ ∃ c ∈ choices, text = [c] := by
  induction choices with
  | nil => simp [oneOf, Language.notMem_zero]
  | cons first rest ih =>
    have split : oneOf (first :: rest) = .char first + oneOf rest := rfl
    have single : text ∈ (RegularExpression.char first).matches' ↔ text = [first] := Iff.rfl
    rw [split, RegularExpression.matches'_add, Language.mem_add, single, ih]
    simp

theorem mem_star_oneOf : text ∈ (oneOf choices).star.matches' ↔ ∀ c ∈ text, c ∈ choices := by
  rw [RegularExpression.matches'_star, Language.mem_kstar]
  constructor
  · rintro ⟨parts, rfl, single⟩ c member
    obtain ⟨part, among, inside⟩ := List.mem_flatten.mp member
    obtain ⟨d, chosen, rfl⟩ := mem_oneOf.mp (single part among)
    rwa [List.mem_singleton.mp inside]
  · intro all
    refine ⟨text.map fun c => [c], (List.flatMap_singleton' text).symm, fun part among => ?_⟩
    obtain ⟨c, member, rfl⟩ := List.mem_map.mp among
    exact mem_oneOf.mpr ⟨c, all c member, rfl⟩

theorem mem_word : text ∈ word.matches' ↔ text ≠ [] ∧ ∀ c ∈ text, c ∈ wordChars := by
  rw [word, RegularExpression.matches'_mul, Language.mem_mul]
  constructor
  · rintro ⟨first, one, rest, more, rfl⟩
    obtain ⟨c, chosen, rfl⟩ := mem_oneOf.mp one
    exact ⟨by simp, List.forall_mem_cons.mpr ⟨chosen, mem_star_oneOf.mp more⟩⟩
  · rintro ⟨nonempty, all⟩
    obtain ⟨first, rest, rfl⟩ := List.exists_cons_of_ne_nil nonempty
    obtain ⟨chosen, others⟩ := List.forall_mem_cons.mp all
    exact ⟨[first], mem_oneOf.mpr ⟨first, chosen, rfl⟩, rest, mem_star_oneOf.mpr others, rfl⟩

theorem mem_span {first last : Char} (ascii : last.toNat < 128) :
    c ∈ span first last ↔ first ≤ c ∧ c ≤ last := by
  have between : first ≤ c ∧ c ≤ last ↔ first.toNat ≤ c.toNat ∧ c.toNat ≤ last.toNat := Iff.rfl
  rw [span, List.mem_map, between]
  constructor
  · rintro ⟨n, member, rfl⟩
    obtain ⟨least, greatest⟩ := List.mem_range'_1.mp member
    have valid : n.isValidChar := Or.inl (by omega)
    rw [Char.toNat_ofNat, if_pos valid]
    omega
  · rintro ⟨least, greatest⟩
    exact ⟨c.toNat, List.mem_range'_1.mpr (by omega), Char.ofNat_toNat c⟩

theorem mem_wordChars : c ∈ wordChars ↔ IsWordChar c := by
  simp only [wordChars, List.mem_append, List.mem_singleton, or_assoc, IsWordChar,
    mem_span (show 'Z'.toNat < 128 by decide), mem_span (show 'z'.toNat < 128 by decide),
    mem_span (show '9'.toNat < 128 by decide)]

theorem mem_word_iff {text : String} : text.toList ∈ word.matches' ↔ IsWord text := by
  rw [mem_word, IsWord, ne_eq, String.toList_eq_nil_iff]
  simp only [mem_wordChars]

end Pattern

namespace ProcessId

theorem isIdChar_iff {c : Char} : isIdChar c ↔ IsWordChar c := by
  simp [isIdChar, IsWordChar, Char.isAlphanum, Char.isAlpha, Char.isUpper, Char.isLower,
    Char.isDigit, Char.le_def, or_assoc]

theorem isProcessId_iff {text : String} : IsProcessId text ↔ IsWord text := by
  rw [IsProcessId, IsWord, ne_eq, String.toList_eq_nil_iff]
  simp only [List.all_eq_true, isIdChar_iff]

theorem sanitizeChar_eq (c : Char) : sanitizeChar c = if IsWordChar c then c else '_' := by
  by_cases word : IsWordChar c
  · rw [if_pos word]
    exact sanitizeChar_eq_self.mpr (isIdChar_iff.mpr word)
  · have other : ¬ c.isAlphanum := by
      intro alphanumeric
      exact word (isIdChar_iff.mp (by simp [isIdChar, alphanumeric]))
    rw [if_neg word, sanitizeChar, if_neg other]

theorem toList_underscored (text : String) :
    (underscored text).toList = text.toList.map sanitizeChar := by
  rw [underscored, String.toList_map]
  exact List.map_congr_left fun c _ => (sanitizeChar_eq c).symm

theorem sanitize_of_ne {name : String} (nonempty : name ≠ "") :
    (sanitize name).text = underscored name := by
  apply String.toList_injective
  rw [toList_text_sanitize, sanitizeChars_of_ne_nil (mt String.toList_eq_nil_iff.mp nonempty),
    toList_underscored]

theorem sanitize_empty : (sanitize "").text = "_" := rfl

/-- Making an id of a text keeps the text exactly if it is a word. -/
theorem text_sanitize_eq_self {name : String} : (sanitize name).text = name ↔ IsWord name := by
  by_cases empty : name = ""
  · subst empty
    simp [sanitize_empty, IsWord]
  · rw [sanitize_of_ne empty, ← String.toList_inj, toList_underscored, map_sanitizeChar_eq_self,
      IsWord, and_iff_right empty]
    simp only [isIdChar_iff]

theorem length_sanitize {name : String} :
    (sanitize name).text.length = name.length ↔ name ≠ "" := by
  constructor
  · rintro same rfl
    exact absurd same (by decide)
  · intro nonempty
    rw [sanitize_of_ne nonempty, underscored, String.length_map]

theorem sanitize_append {first : String} (nonempty : first ≠ "") (rest : String) :
    (sanitize (first ++ rest)).text = (sanitize first).text ++ underscored rest := by
  apply String.toList_injective
  rw [toList_text_sanitize, String.toList_append,
    sanitizeChars_append (mt String.toList_eq_nil_iff.mp nonempty), String.toList_append,
    toList_text_sanitize, toList_underscored]

/-- A text is read as an id exactly if it matches the pattern, which is if it is a word of letters,
digits and underscores, and also exactly if it stays as it is when an id is made of it. An id that
is made is such a word, so making it again changes nothing. It has a character for each one of the
text if there are any, and then of what is put behind the text each character is replaced on its
own. -/
theorem read_pattern :
    (∀ name, [∃ id, read name = .ok id, name.toList ∈ Pattern.word.matches', IsWord name,
      (sanitize name).text = name].TFAE) ∧
    (∀ name, (∀ id, read name = .ok id ↔ id.text = name) ∧
      ∀ cause, read name = .error cause ↔ ¬ IsWord name ∧ cause = .idInvalid name) ∧
    (∀ name, IsWord (sanitize name).text ∧ read (sanitize name).text = .ok (sanitize name) ∧
      sanitize (sanitize name).text = sanitize name ∧
      ((sanitize name).text.length = name.length ↔ name ≠ "")) ∧
    ∀ first rest, first ≠ "" →
      (sanitize (first ++ rest)).text = (sanitize first).text ++ underscored rest := by
  refine ⟨fun name => ?_, fun name => ⟨fun id => read_eq_ok, fun cause => ?_⟩, fun name => ?_,
    fun first rest nonempty => sanitize_append nonempty rest⟩
  · tfae_have 1 ↔ 3 := by
      constructor
      · rintro ⟨id, reads⟩
        exact isProcessId_iff.mp (read_eq_ok.mp reads ▸ id.valid)
      · intro word
        exact ⟨⟨name, isProcessId_iff.mpr word⟩, read_eq_ok.mpr rfl⟩
    tfae_have 2 ↔ 3 := Pattern.mem_word_iff
    tfae_have 4 ↔ 3 := text_sanitize_eq_self
    tfae_finish
  · rw [read_eq_error, isProcessId_iff]
  · have word : IsWord (sanitize name).text := isProcessId_iff.mp (sanitize name).valid
    exact ⟨word, read_eq_ok.mpr rfl, text_inj.mp (text_sanitize_eq_self.mpr word),
      length_sanitize⟩

/-- Of a text behind a name each character is replaced, also those beyond ASCII and a line end. -/
theorem brokenName_sanitized :
    "t.rast" ≠ "" ∧ (sanitize ("t.rast" ++ ".größe\n")).text = "t_rast" ++ "_gr__e_" ∧
    underscored ".größe\n" = "_gr__e_" := by
  have named : "t.rast" ≠ "" := by decide
  have replaced : underscored ".größe\n" = "_gr__e_" := by
    apply String.toList_injective
    rw [toList_underscored]
    decide
  have kept : (sanitize "t.rast").text = "t_rast" := rfl
  have joined := read_pattern.2.2.2 "t.rast" ".größe\n" named
  rw [kept, replaced] at joined
  exact ⟨named, joined, replaced⟩

example : read "ndvi\n" = .error (.idInvalid "ndvi\n") := by decide

end ProcessId

end GeoChain
