import GeoChain.Graph.Malformed

/-!
# Process identifiers

The name of a process is a non-empty text of ASCII letters, digits and underscores. Any text can be
made into one by putting an underscore for every other character.
-/

namespace GeoChain

def isIdChar (c : Char) : Bool := c.isAlphanum || c = '_'

/-- Non-empty, and every character is a letter, a digit or an underscore. -/
def IsProcessId (text : String) : Prop := text.toList ≠ [] ∧ text.toList.all isIdChar

instance (text : String) : Decidable (IsProcessId text) := inferInstanceAs (Decidable (_ ∧ _))

structure ProcessId where
  text : String
  valid : IsProcessId text
deriving DecidableEq

namespace ProcessId

def read (text : String) : Except Malformed ProcessId :=
  if valid : IsProcessId text then .ok ⟨text, valid⟩ else .error (.idInvalid text)

def sanitizeChar (c : Char) : Char := if c.isAlphanum then c else '_'

def sanitizeChars (chars : List Char) : List Char :=
  if chars.isEmpty then ['_'] else chars.map sanitizeChar

theorem isIdChar_sanitizeChar (c : Char) : isIdChar (sanitizeChar c) = true := by
  unfold sanitizeChar
  split
  · rename_i alphanumeric
    simp [isIdChar, alphanumeric]
  · decide

theorem sanitizeChars_valid (chars : List Char) :
    sanitizeChars chars ≠ [] ∧ (sanitizeChars chars).all isIdChar := by
  cases chars with
  | nil => exact ⟨by simp [sanitizeChars], by decide⟩
  | cons c rest =>
    refine ⟨by simp [sanitizeChars], ?_⟩
    simp only [sanitizeChars, List.isEmpty_cons, Bool.false_eq_true, if_false, List.all_map,
      List.all_eq_true]
    intro x _
    exact isIdChar_sanitizeChar x

def sanitize (name : String) : ProcessId :=
  ⟨String.ofList (sanitizeChars name.toList), by
    simpa [IsProcessId] using sanitizeChars_valid name.toList⟩

end ProcessId

end GeoChain
