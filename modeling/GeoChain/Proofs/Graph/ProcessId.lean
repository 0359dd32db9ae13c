import GeoChain.Graph.ProcessId

/-!
# Reading and making process ids

An id is read from its own text and from no other. When an id is made of a text, a character stays
as it is exactly if it may stand in a process id. Of a text behind a text that is not empty each
character is replaced on its own; only the empty text as a whole is special.
-/

namespace GeoChain

namespace ProcessId

theorem text_inj {one other : ProcessId} : one.text = other.text ↔ one = other := by
  constructor
  · intro same
    cases one
    cases other
    cases same
    rfl
  · rintro rfl
    rfl

/-- What is read has the text that it was read from, and every id is read from its text. -/
theorem read_eq_ok {name : String} {id : ProcessId} : read name = .ok id ↔ id.text = name := by
  rw [read]
  split
  · rename_i valid
    rw [Except.ok.injEq, ← text_inj]
    exact eq_comm
  · rename_i invalid
    constructor
    · intro failed
      cases failed
    · rintro rfl
      exact absurd id.valid invalid

theorem read_eq_error {name : String} {cause : Malformed} :
    read name = .error cause ↔ ¬ IsProcessId name ∧ cause = .idInvalid name := by
  rw [read]
  split
  · rename_i valid
    simp [valid]
  · rename_i invalid
    simp [invalid, eq_comm]

theorem sanitizeChar_eq_self {c : Char} : sanitizeChar c = c ↔ isIdChar c := by
  rw [sanitizeChar]
  split
  · rename_i alphanumeric
    simp [isIdChar, alphanumeric]
  · rename_i other
    simp [isIdChar, other, eq_comm]

theorem map_sanitizeChar_eq_self {chars : List Char} :
    chars.map sanitizeChar = chars ↔ ∀ c ∈ chars, isIdChar c := by
  have same : chars.map sanitizeChar = chars.map id ↔ ∀ c ∈ chars, sanitizeChar c = c :=
    List.map_inj_left
  rw [List.map_id] at same
  exact same.trans ⟨fun all c member => sanitizeChar_eq_self.mp (all c member),
    fun all c member => sanitizeChar_eq_self.mpr (all c member)⟩

theorem sanitizeChars_of_ne_nil {chars : List Char} (nonempty : chars ≠ []) :
    sanitizeChars chars = chars.map sanitizeChar :=
  if_neg (mt List.isEmpty_iff.mp nonempty)

/-- Only the first of two texts can be the empty one that is special. -/
theorem sanitizeChars_append {first : List Char} (nonempty : first ≠ []) (rest : List Char) :
    sanitizeChars (first ++ rest) = sanitizeChars first ++ rest.map sanitizeChar := by
  rw [sanitizeChars_of_ne_nil nonempty, sanitizeChars_of_ne_nil (by simp [nonempty]),
    List.map_append]

theorem toList_text_sanitize (name : String) :
    (sanitize name).text.toList = sanitizeChars name.toList := by
  rw [sanitize, String.toList_ofList]

end ProcessId

end GeoChain
