import GeoChain.Proofs.Keyed

/-!
# The order of texts

Texts are ordered by their code points, and that is the order of their UTF-8 bytes: a greater code
point takes at least as many bytes, and its first byte that differs is greater.
-/

namespace GeoChain

namespace Text

/-- The UTF-8 bytes of a text. -/
def bytes (text : String) : List UInt8 := text.toUTF8.data.toList

theorem bytes_eq (text : String) : bytes text = text.toList.flatMap String.utf8EncodeChar := by
  rw [bytes, String.toUTF8_eq_toByteArray, ← String.utf8Encode_toList, List.utf8Encode,
    List.toList_data_toByteArray]

theorem bytes_inj {first second : String} : bytes first = bytes second ↔ first = second := by
  rw [bytes, bytes, Array.toList_inj, ← ByteArray.ext_iff, String.toUTF8_eq_toByteArray,
    String.toUTF8_eq_toByteArray, String.toByteArray_inj]

theorem scalar_lt (c : Char) : c.val.toNat < 0x110000 := by
  rcases c.valid with low | ⟨-, high⟩
  · change c.val.toNat < _ at low
    omega
  · exact high

theorem byte_cons_lt {m n : Nat} (below : m < 256) (above : n < 256) {rest others : List UInt8} :
    UInt8.ofNat m :: rest < UInt8.ofNat n :: others ↔ m < n ∨ m = n ∧ rest < others := by
  rw [List.cons_lt_cons_iff, UInt8.lt_iff_toNat_lt, ← UInt8.toNat_inj,
    UInt8.toNat_ofNat_of_lt' below, UInt8.toNat_ofNat_of_lt' above]

/-- The bytes of a code point come before those of a greater one, whatever follows. -/
theorem encoded_lt {first second : Char} (less : first < second) (rest others : List UInt8) :
    String.utf8EncodeChar first ++ rest < String.utf8EncodeChar second ++ others := by
  have smaller : first.val.toNat < second.val.toNat := less
  have bounded := scalar_lt second
  simp only [String.utf8EncodeChar]
  generalize first.val.toNat = m at smaller
  generalize second.val.toNat = n at smaller bounded
  have twice : ∀ v : Nat, v / 4096 = v / 64 / 64 := by omega
  have thrice : ∀ v : Nat, v / 262144 = v / 64 / 64 / 64 := by omega
  -- One case for each two lengths. Different lengths are settled by the first byte.
  repeat' split
  all_goals
    simp (disch := omega) only [List.cons_append, byte_cons_lt, twice, thrice]
    omega

theorem flatMap_encoded_lt {first second : List Char} (less : first < second) :
    first.flatMap String.utf8EncodeChar < second.flatMap String.utf8EncodeChar := by
  induction less with
  | nil =>
    rename_i c rest
    rw [List.flatMap_nil, List.flatMap_cons]
    cases encoded : String.utf8EncodeChar c with
    | nil => exact absurd encoded String.utf8EncodeChar_ne_nil
    | cons byte others => exact List.Lex.nil
  | rel less => exact encoded_lt less _ _
  | cons _ ih =>
    rw [List.flatMap_cons, List.flatMap_cons]
    exact List.append_left_lt ih

/-- Texts are ordered as their UTF-8 bytes are. -/
theorem bytes_lt_iff {first second : String} : bytes first < bytes second ↔ first < second := by
  have keeps : ∀ first second : String, first < second → bytes first < bytes second := by
    intro first second less
    rw [bytes_eq, bytes_eq]
    exact flatMap_encoded_lt less
  refine ⟨fun less => ?_, keeps first second⟩
  by_cases greater : second < first
  · exact absurd less (List.lt_asymm (keeps second first greater))
  · by_cases same : first = second
    · exact absurd (same ▸ less) (List.lt_irrefl _)
    · exact Keyed.lt_of_not_lt_of_ne greater same

end Text

end GeoChain
