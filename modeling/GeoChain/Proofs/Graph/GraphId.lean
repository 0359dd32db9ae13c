import GeoChain.Proofs.Graph.Stored
import GeoChain.Proofs.Uuid.Spelling

/-!
# The texts that are graph ids

A graph id is its lead and any spelling of a UUID. Each id has one canonical text, which is the one
that is written for it: the digits in lower case and with hyphens. All spellings of the same digits,
whatever their case, are the same id.
-/

namespace GeoChain

namespace GraphId

/-- A text that spells a row of digits behind the lead. -/
structure SpelledBy (text : String) (digits : List Char) : Prop where
  wellFormed : Uuid.Digits digits
  behind : ∃ chars, text.toList = lead.toList ++ chars ∧ Uuid.Spells digits chars

/-- The lead and behind it the digits in lower case, with hyphens. -/
def canonical (digits : List Char) : String :=
  lead ++ String.ofList (Uuid.joinGroups Uuid.groups digits)

/-- A text that is written with lower-case digits and hyphens. -/
def IsCanonical (text : String) : Prop :=
  ∃ digits, digits.length = 32 ∧ (∀ c ∈ digits, c ∈ Uuid.lowerDigits) ∧ text = canonical digits

variable {text : String} {id : GraphId} {digits : List Char}

theorem eq_of_afterLead? {lead chars rest : List Char} (found : afterLead? lead chars = some rest) :
    chars = lead ++ rest := by
  induction lead generalizing chars with
  | nil =>
    cases found
    rfl
  | cons c lead ih =>
    cases chars with
    | nil => cases found
    | cons d chars =>
      rw [afterLead?] at found
      split at found
      · rename_i same
        rw [same, ih found, List.cons_append]
      · cases found

theorem afterLead?_eq_none {lead chars : List Char} :
    afterLead? lead chars = none ↔ ¬ lead <+: chars := by
  constructor
  · rintro missing ⟨rest, rfl⟩
    rw [afterLead?_append] at missing
    cases missing
  · intro apart
    cases found : afterLead? lead chars with
    | none => rfl
    | some rest => exact absurd ⟨rest, (eq_of_afterLead? found).symm⟩ apart

theorem text_eq (id : GraphId) : id.text = canonical id.uuid.plain := rfl

/-- Reading goes by the digits alone. -/
theorem read_ok : read text = .ok id ↔
    ∃ digits, SpelledBy text digits ∧ id.uuid.plain = digits.map Char.toLower := by
  constructor
  · intro reads
    rw [read] at reads
    split at reads
    · cases reads
    · rename_i chars behind
      split at reads
      · cases reads
      · rename_i uuid found
        cases reads
        obtain ⟨digits, wellFormed, spells, shown⟩ := Uuid.spells_of_ofChars? found
        exact ⟨digits, ⟨wellFormed, chars, eq_of_afterLead? behind, spells⟩, shown⟩
  · rintro ⟨digits, ⟨wellFormed, chars, behind, spells⟩, shown⟩
    rw [read, behind, afterLead?_append]
    simp only [Uuid.ofChars?_of_spells wellFormed spells shown]

/-- Every text that spells digits is read. -/
theorem SpelledBy.reads (spelled : SpelledBy text digits) :
    ∃ id, read text = .ok id ∧ id.uuid.plain = digits.map Char.toLower := by
  obtain ⟨value, number⟩ := Uuid.exists_hexNumber? spelled.wellFormed.hex
  obtain ⟨-, shown⟩ := Uuid.hexDigits_of_hexNumber? number
  rw [spelled.wellFormed.length] at shown
  have plain := (Uuid.plain_ofNat value).trans shown
  exact ⟨⟨⟨BitVec.ofNat 128 value⟩⟩, read_ok.mpr ⟨digits, spelled, plain⟩, plain⟩

/-- A text that is read and spells digits has the lower-case digits in its id. -/
theorem SpelledBy.plain (spelled : SpelledBy text digits) (reads : read text = .ok id) :
    id.uuid.plain = digits.map Char.toLower := by
  obtain ⟨other, readOther, shown⟩ := spelled.reads
  rw [reads] at readOther
  cases readOther
  exact shown

theorem isCanonical_text (id : GraphId) : IsCanonical id.text :=
  ⟨id.uuid.plain, Uuid.length_hexDigits 32 _, Uuid.lower_hexDigits 32 _, rfl⟩

theorem spelledBy_canonical (length : digits.length = 32)
    (lower : ∀ c ∈ digits, c ∈ Uuid.lowerDigits) : SpelledBy (canonical digits) digits := by
  refine ⟨⟨length, fun c member => ?_⟩, Uuid.joinGroups Uuid.groups digits, ?_, .hyphenated⟩
  · rw [Uuid.toLower_of_mem (lower c member)]
    exact lower c member
  · rw [canonical, String.toList_append, String.toList_ofList]

/-- A canonical text is the text of what it is read as, and no other text is. -/
theorem text_eq_iff (reads : read text = .ok id) : id.text = text ↔ IsCanonical text := by
  constructor
  · rintro rfl
    exact id.isCanonical_text
  · rintro ⟨digits, length, lower, rfl⟩
    have shown := (spelledBy_canonical length lower).plain reads
    rw [text_eq, shown, Uuid.map_toLower_of_lower lower]

theorem read_missingLead : read text = .error .missingLead ↔ ¬ lead.toList <+: text.toList := by
  rw [← afterLead?_eq_none, read]
  split
  · rename_i missing
    simp [missing]
  · rename_i chars found
    rw [found]
    split
    · simp
    · simp

theorem read_invalidUuid : read text = .error .invalidUuid ↔
    lead.toList <+: text.toList ∧ ¬ ∃ digits, SpelledBy text digits := by
  constructor
  · intro reads
    constructor
    · by_contra missing
      rw [read_missingLead.mpr missing] at reads
      cases reads
    · rintro ⟨digits, spelled⟩
      obtain ⟨id, found, -⟩ := spelled.reads
      rw [reads] at found
      cases found
  · rintro ⟨starts, foreign⟩
    cases reads : read text with
    | ok id =>
      obtain ⟨digits, spelled, -⟩ := read_ok.mp reads
      exact absurd ⟨digits, spelled⟩ foreign
    | error problem =>
      cases problem with
      | missingLead => exact absurd starts (read_missingLead.mp reads)
      | invalidUuid => rfl

/-- Every id is read back from its text. The texts that are read are the lead with a spelling of 32
hexadecimal digits behind it; the text of what is read has the digits in lower case and with
hyphens, is read as the same id, and is the text itself exactly if that was written so. Two texts
that are read are the same id exactly if their digits are the same in lower case. A text without the
lead lacks it, and any other text that is not read has no identifier behind it. -/
theorem read_spellings :
    (∀ id : GraphId, read id.text = .ok id) ∧
    (∀ text, (∃ id, read text = .ok id) ↔ ∃ digits, SpelledBy text digits) ∧
    (∀ text id digits, read text = .ok id → SpelledBy text digits →
      id.text = canonical (digits.map Char.toLower) ∧ IsCanonical id.text ∧
      read id.text = .ok id ∧ (id.text = text ↔ IsCanonical text)) ∧
    (∀ one other digits others, SpelledBy one digits → SpelledBy other others →
      (read one = read other ↔ digits.map Char.toLower = others.map Char.toLower)) ∧
    (∀ text, read text = .error .missingLead ↔ ¬ lead.toList <+: text.toList) ∧
    ∀ text, read text = .error .invalidUuid ↔
      lead.toList <+: text.toList ∧ ¬ ∃ digits, SpelledBy text digits := by
  refine ⟨read_text, ?_, ?_, ?_, fun text => read_missingLead, fun text => read_invalidUuid⟩
  · intro text
    constructor
    · rintro ⟨id, reads⟩
      obtain ⟨digits, spelled, -⟩ := read_ok.mp reads
      exact ⟨digits, spelled⟩
    · rintro ⟨digits, spelled⟩
      obtain ⟨id, reads, -⟩ := spelled.reads
      exact ⟨id, reads⟩
  · intro text id digits reads spelled
    refine ⟨?_, id.isCanonical_text, id.read_text, text_eq_iff reads⟩
    rw [text_eq, spelled.plain reads]
  · intro one other digits others spelled alsoSpelled
    obtain ⟨first, readOne, shownOne⟩ := spelled.reads
    obtain ⟨second, readOther, shownOther⟩ := alsoSpelled.reads
    rw [readOne, readOther, ← shownOne, ← shownOther]
    constructor
    · intro same
      rw [Except.ok.inj same]
    · intro same
      have uuid : first.uuid = second.uuid := Uuid.plain_inj same
      have whole : first = second := congrArg mk uuid
      rw [whole]

def mixedDigits : List Char := "6ba7B8119DAD11d180b400C04fd430c8".toList

def mixedUrn : String := "user-graph::URN:uuid:6ba7B811-9DAD-11d1-80b4-00C04fd430c8"

def upperBraces : String := "user-graph::\x7b6BA7B811-9DAD-11D1-80B4-00C04FD430C8\x7d"

theorem mixedUrn_read :
    SpelledBy mixedUrn mixedDigits ∧ SpelledBy upperBraces (mixedDigits.map Char.toUpper) ∧
    read mixedUrn = .ok ⟨Uuid.urlSpace⟩ ∧ read mixedUrn = read upperBraces ∧
    GraphId.text ⟨Uuid.urlSpace⟩ = "user-graph::6ba7b811-9dad-11d1-80b4-00c04fd430c8" ∧
    ¬ IsCanonical mixedUrn := by
  have mixed : SpelledBy mixedUrn mixedDigits := by
    refine ⟨by decide, _, rfl, ?_⟩
    exact @Uuid.Spells.urn _ "URN:uuid:".toList rfl
  have upper : SpelledBy upperBraces (mixedDigits.map Char.toUpper) :=
    ⟨by decide, _, rfl, .braced⟩
  have reads : read mixedUrn = .ok ⟨Uuid.urlSpace⟩ := by rfl
  obtain ⟨-, -, canonical, same, -⟩ := read_spellings
  obtain ⟨shown, -, -, asWritten⟩ := canonical mixedUrn ⟨Uuid.urlSpace⟩ mixedDigits reads mixed
  refine ⟨mixed, upper, reads, ?_, ?_, ?_⟩
  · exact (same _ _ _ _ mixed upper).mpr (by decide)
  · rw [shown]
    rfl
  · intro isCanonical
    have written := asWritten.mpr isCanonical
    rw [shown] at written
    revert written
    decide

end GraphId

end GeoChain
