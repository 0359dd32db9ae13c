import GeoChain.Proofs.Text.ByteOrder
import GeoChain.Url.Percent

/-!
# Undoing percent encoding

Decoding an encoded text gives the bytes of the text, if it has no `%` of its own. So two texts
without `%` are encoded differently if they differ. With a `%` they need not be, since it is left as
it is.
-/

namespace GeoChain

namespace Url

variable {encoded : List Char}

theorem upperHexDigit_mod (n : Nat) : upperHexDigit n = upperHexDigit (n % 16) := by
  rw [upperHexDigit, upperHexDigit, Nat.mod_mod]

theorem hexValue?_upperHexDigit (n : Nat) : hexValue? (upperHexDigit n) = some (n % 16) := by
  have all : ∀ digit : Fin 16, hexValue? (upperHexDigit digit.val) = some digit.val := by decide
  rw [upperHexDigit_mod]
  exact all ⟨n % 16, Nat.mod_lt _ (by decide)⟩

theorem isAlphanum_upperHexDigit (n : Nat) : (upperHexDigit n).isAlphanum := by
  have all : ∀ digit : Fin 16, (upperHexDigit digit.val).isAlphanum := by decide
  rw [upperHexDigit_mod]
  exact all ⟨n % 16, Nat.mod_lt _ (by decide)⟩

theorem byteOfHex?_digits (byte : UInt8) :
    byteOfHex? (upperHexDigit (byte.toNat / 16)) (upperHexDigit byte.toNat) = some byte := by
  have bounded := byte.toNat_lt
  have same : 16 * (byte.toNat / 16 % 16) + byte.toNat % 16 = byte.toNat := by omega
  rw [byteOfHex?, hexValue?_upperHexDigit, hexValue?_upperHexDigit]
  dsimp only [bind, pure, Option.bind]
  rw [same, UInt8.ofNat_toNat]

theorem decode_encodeByte (byte : UInt8) (rest : List Char) :
    decode (encodeByte byte ++ rest) = byte :: decode rest := by
  simp only [encodeByte, List.cons_append, List.nil_append]
  rw [decode, byteOfHex?_digits]

theorem decode_encodeBytes (bytes : List UInt8) (rest : List Char) :
    decode (bytes.flatMap encodeByte ++ rest) = bytes ++ decode rest := by
  induction bytes with
  | nil => rfl
  | cons byte bytes ih =>
    rw [List.flatMap_cons, List.append_assoc, decode_encodeByte, ih, List.cons_append]

theorem decode_cons {c : Char} (plain : c ≠ '%') (rest : List Char) :
    decode (c :: rest) = String.utf8EncodeChar c ++ decode rest := by
  rw [decode]
  intro high low tail same
  exact absurd same plain

theorem decode_encode {chars : List Char} (plain : '%' ∉ chars) :
    decode (encode encoded chars) = chars.flatMap String.utf8EncodeChar := by
  induction chars with
  | nil => simp [encode, decode]
  | cons c rest ih =>
    have here := List.ne_of_not_mem_cons plain
    have later := List.not_mem_of_not_mem_cons plain
    rw [encode, List.flatMap_cons, List.flatMap_cons, encodeChar]
    split
    · rw [decode_encodeBytes]
      exact congrArg _ (ih later)
    · rw [List.singleton_append, decode_cons (Ne.symm here)]
      exact congrArg _ (ih later)

/-- Encoding keeps texts without `%` apart. -/
theorem encode_inj {first second : List Char} (plain : '%' ∉ first) (alsoPlain : '%' ∉ second)
    (same : encode encoded first = encode encoded second) : first = second := by
  have bytes : Text.bytes (String.ofList first) = Text.bytes (String.ofList second) := by
    rw [Text.bytes_eq, Text.bytes_eq, String.toList_ofList, String.toList_ofList,
      ← decode_encode plain, same, decode_encode alsoPlain]
  exact String.ofList_inj.mp (Text.bytes_inj.mp bytes)

theorem mem_encodeByte {byte : UInt8} {c : Char} (member : c ∈ encodeByte byte) :
    c = '%' ∨ c.isAlphanum := by
  simp only [encodeByte, List.mem_cons, List.not_mem_nil, or_false] at member
  rcases member with rfl | rfl | rfl
  · exact .inl rfl
  · exact .inr (isAlphanum_upperHexDigit _)
  · exact .inr (isAlphanum_upperHexDigit _)

/-- A mark that is left as it is stands in the encoded text just where it stood before. -/
theorem mem_encode {mark : Char} {chars : List Char} (left : encodeChar encoded mark = [mark])
    (distinct : mark ≠ '%') (noDigit : ¬ mark.isAlphanum) :
    mark ∈ encode encoded chars ↔ mark ∈ chars := by
  rw [encode, List.mem_flatMap]
  constructor
  · rintro ⟨c, member, inside⟩
    rw [encodeChar] at inside
    split at inside
    · obtain ⟨byte, -, digit⟩ := List.mem_flatMap.mp inside
      rcases mem_encodeByte digit with percent | alphanumeric
      · exact absurd percent distinct
      · exact absurd alphanumeric noDigit
    · exact List.mem_singleton.mp inside ▸ member
  · intro member
    exact ⟨mark, member, left ▸ List.mem_singleton_self mark⟩

theorem encodeChar_ne_nil (c : Char) : encodeChar encoded c ≠ [] := by
  rw [encodeChar]
  split
  · obtain ⟨byte, rest, bytes⟩ :=
      List.exists_cons_of_ne_nil (String.utf8EncodeChar_ne_nil : String.utf8EncodeChar c ≠ [])
    rw [bytes, List.flatMap_cons, encodeByte]
    exact List.cons_ne_nil _ _
  · exact List.cons_ne_nil _ _

/-- What is left of a text when characters are taken out of it is encoded shorter. -/
theorem length_encode_filter (keep : Char → Bool) (chars : List Char) :
    (encode encoded (chars.filter keep)).length ≤ (encode encoded chars).length ∧
      ((encode encoded (chars.filter keep)).length = (encode encoded chars).length →
        ∀ c ∈ chars, keep c) := by
  induction chars with
  | nil => simp
  | cons c rest ih =>
    obtain ⟨shorter, same⟩ := ih
    have some : 0 < (encodeChar encoded c).length := List.length_pos_iff.mpr (encodeChar_ne_nil c)
    rw [encode, encode] at shorter same ⊢
    by_cases kept : keep c
    · rw [List.filter_cons_of_pos kept, List.flatMap_cons, List.flatMap_cons, List.length_append,
        List.length_append]
      refine ⟨by omega, fun equal => List.forall_mem_cons.mpr ⟨kept, same (by omega)⟩⟩
    · rw [List.filter_cons_of_neg kept, List.flatMap_cons, List.length_append]
      refine ⟨by omega, fun equal => ?_⟩
      omega

end Url

end GeoChain
