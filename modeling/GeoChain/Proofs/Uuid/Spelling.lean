import GeoChain.Proofs.Uuid

/-!
# The spellings of an identifier

An identifier is spelled by 32 hexadecimal digits in any case: as they are, in groups with hyphens,
so in braces, or so behind a lead. Exactly these spellings are read. The identifier that is read is
the one whose own digits are those of the spelling in lower case, so case and form do not matter.
-/

namespace GeoChain

namespace Uuid

/-- The hexadecimal digits in lower case. -/
def lowerDigits : List Char :=
  ['0', '1', '2', '3', '4', '5', '6', '7', '8', '9', 'a', 'b', 'c', 'd', 'e', 'f']

/-- As many digits as an identifier has, in any case. -/
structure Digits (digits : List Char) : Prop where
  length : digits.length = 32
  hex : ∀ c ∈ digits, c.toLower ∈ lowerDigits

theorem digits_iff {digits : List Char} : Digits digits ↔
    digits.length = 32 ∧ (digits.all fun c => lowerDigits.contains c.toLower) = true := by
  simp only [List.all_eq_true, List.contains_iff_mem]
  exact ⟨fun wellFormed => ⟨wellFormed.length, wellFormed.hex⟩, fun both => ⟨both.1, both.2⟩⟩

instance (digits : List Char) : Decidable (Digits digits) := decidable_of_iff _ digits_iff.symm

/-- The four spellings of a row of digits. The lead of the last one may be in any case. -/
inductive Spells (digits : List Char) : List Char → Prop where
  | plain : Spells digits digits
  | hyphenated : Spells digits (joinGroups groups digits)
  | braced : Spells digits ('\x7b' :: joinGroups groups digits ++ ['\x7d'])
  | urn {lead : List Char} (anyCase : lead.map Char.toLower = "urn:uuid:".toList) :
      Spells digits (lead ++ joinGroups groups digits)

theorem mem_lowerDigits {c : Char} : c ∈ lowerDigits ↔ ∃ n < 16, Nat.digitChar n = c := by
  have shown : lowerDigits = (List.range 16).map Nat.digitChar := rfl
  rw [shown, List.mem_map]
  simp only [List.mem_range]

theorem toLower_of_mem {c : Char} (member : c ∈ lowerDigits) : c.toLower = c := by
  have each : ∀ n < 16, (Nat.digitChar n).toLower = Nat.digitChar n := by decide
  obtain ⟨n, small, rfl⟩ := mem_lowerDigits.mp member
  exact each n small

theorem isDigit_iff {c : Char} : c.isDigit ↔ 48 ≤ c.toNat ∧ c.toNat ≤ 57 := by
  simp only [Char.isDigit, Bool.and_eq_true, decide_eq_true_eq]
  exact Iff.rfl

theorem isUpper_iff {c : Char} : c.isUpper ↔ 65 ≤ c.toNat ∧ c.toNat ≤ 90 := by
  simp only [Char.isUpper, decide_eq_true_eq]
  exact Iff.rfl

theorem digitChar_of_hexValue? {c : Char} {n : Nat} (value : hexValue? c = some n) :
    n < 16 ∧ Nat.digitChar n = c.toLower := by
  rw [hexValue?] at value
  split at value
  · rename_i digit
    have figure : ∀ k < 58, 48 ≤ k → Nat.digitChar (k - 48) = Char.ofNat k := by decide
    obtain ⟨least, greatest⟩ := isDigit_iff.mp digit
    have notUpper : ¬ c.isUpper := by
      intro upper
      have above := (isUpper_iff.mp upper).1
      omega
    have shown := figure c.toNat (by omega) least
    rw [Char.ofNat_toNat] at shown
    have zero : '0'.toNat = 48 := rfl
    rw [zero] at value
    cases value
    rw [Char.toLower_eq_of_not_isUpper notUpper]
    exact ⟨by omega, shown⟩
  · have letter : ∀ k < 103, 97 ≤ k → Nat.digitChar (k - 97 + 10) = Char.ofNat k := by decide
    dsimp only at value
    split at value
    · rename_i within
      obtain ⟨least, greatest⟩ : 97 ≤ c.toLower.toNat ∧ c.toLower.toNat ≤ 102 := within
      have a : 'a'.toNat = 97 := rfl
      rw [a] at value
      have shown := letter c.toLower.toNat (by omega) least
      rw [Char.ofNat_toNat] at shown
      cases value
      exact ⟨by omega, shown⟩
    · cases value

theorem hexValue?_of_digitChar {c : Char} {n : Nat} (small : n < 16)
    (same : Nat.digitChar n = c.toLower) : hexValue? c = some n := by
  by_cases upper : c.isUpper
  · have each : ∀ k < 91, 65 ≤ k → ∀ n < 16, Nat.digitChar n = (Char.ofNat k).toLower →
        hexValue? (Char.ofNat k) = some n := by decide
    obtain ⟨least, greatest⟩ := isUpper_iff.mp upper
    have found := each c.toNat (by omega) least n small
    rw [Char.ofNat_toNat] at found
    exact found same
  · rw [Char.toLower_eq_of_not_isUpper upper] at same
    rw [← same]
    exact hexValue?_digitChar n small

/-- What has a number is hexadecimal, and the digits of the number are the same in lower case. -/
theorem hexDigits_of_hexNumber? {digits : List Char} {value : Nat}
    (read : hexNumber? digits = some value) : (∀ c ∈ digits, c.toLower ∈ lowerDigits) ∧
      hexDigits digits.length value = digits.map Char.toLower := by
  -- The last digit is the one that counts ones, so the induction is from the end.
  induction digits using List.reverseRecOn generalizing value with
  | nil => exact ⟨List.forall_mem_nil _, rfl⟩
  | append_singleton lead last ih =>
    rw [hexNumber?, List.foldlM_append] at read
    obtain ⟨before, readLead, readLast⟩ := Option.bind_eq_some_iff.mp read
    obtain ⟨others, shown⟩ := ih readLead
    rw [List.foldlM_cons] at readLast
    obtain ⟨whole, readDigit, done⟩ := Option.bind_eq_some_iff.mp readLast
    obtain ⟨n, digit, sum⟩ := Option.map_eq_some_iff.mp readDigit
    cases done
    obtain ⟨small, char⟩ := digitChar_of_hexValue? digit
    constructor
    · intro c member
      rcases List.mem_append.mp member with early | here
      · exact others c early
      · cases List.mem_singleton.mp here
        exact mem_lowerDigits.mpr ⟨n, small, char⟩
    · have quotient : value / 16 = before := by omega
      have remainder : value % 16 = n := by omega
      rw [List.length_append, List.length_singleton, hexDigits, quotient, remainder, shown, char,
        List.map_append, List.map_singleton]

/-- What is hexadecimal has a number. -/
theorem exists_hexNumber? {digits : List Char} (hex : ∀ c ∈ digits, c.toLower ∈ lowerDigits) :
    ∃ value, hexNumber? digits = some value := by
  induction digits using List.reverseRecOn with
  | nil => exact ⟨0, rfl⟩
  | append_singleton lead last ih =>
    obtain ⟨before, readLead⟩ := ih fun c member => hex c (List.mem_append_left _ member)
    obtain ⟨n, small, char⟩ :=
      mem_lowerDigits.mp (hex last (List.mem_append_right _ List.mem_cons_self))
    have digit := hexValue?_of_digitChar small char
    refine ⟨16 * before + n, ?_⟩
    rw [hexNumber?] at readLead
    rw [hexNumber?, List.foldlM_append, readLead]
    simp only [List.foldlM_cons, List.foldlM_nil, digit]
    rfl

/-- The digits of a number are in lower case. -/
theorem lower_hexDigits (count value : Nat) : ∀ c ∈ hexDigits count value, c ∈ lowerDigits := by
  intro c member
  by_contra foreign
  refine not_mem_hexDigits (fun n small same => ?_) count value member
  exact foreign (mem_lowerDigits.mpr ⟨n, small, same⟩)

theorem map_toLower_of_lower {digits : List Char} (lower : ∀ c ∈ digits, c ∈ lowerDigits) :
    digits.map Char.toLower = digits := by
  refine (List.map_congr_left fun c member => ?_).trans (List.map_id digits)
  exact toLower_of_mem (lower c member)

theorem plain_inj {one other : Uuid} (same : one.plain = other.plain) : one = other :=
  plainText_inj.mp (congrArg String.ofList same)

/-- The number of 32 digits fits into an identifier. -/
theorem plain_ofNat (value : Nat) : plain ⟨BitVec.ofNat 128 value⟩ = hexDigits 32 value := by
  have digits := (hexDigits_of_hexNumber? (hexNumber?_hexDigits 32 value)).2
  rw [length_hexDigits, map_toLower_of_lower (lower_hexDigits 32 value)] at digits
  rw [plain, BitVec.toNat_ofNat]
  exact digits

theorem ofPlain?_eq_some {chars : List Char} {id : Uuid} :
    ofPlain? chars = some id ↔ Digits chars ∧ id.plain = chars.map Char.toLower := by
  constructor
  · intro read
    rw [ofPlain?] at read
    split at read
    · rename_i length
      obtain ⟨value, number, rfl⟩ := Option.map_eq_some_iff.mp read
      obtain ⟨hex, shown⟩ := hexDigits_of_hexNumber? number
      rw [length] at shown
      exact ⟨⟨length, hex⟩, (plain_ofNat value).trans shown⟩
    · cases read
  · rintro ⟨⟨length, hex⟩, shown⟩
    obtain ⟨value, number⟩ := exists_hexNumber? hex
    obtain ⟨-, digits⟩ := hexDigits_of_hexNumber? number
    rw [length] at digits
    have same : (⟨BitVec.ofNat 128 value⟩ : Uuid) = id :=
      plain_inj ((plain_ofNat value).trans (digits.trans shown.symm))
    rw [ofPlain?, if_pos length, number, Option.map_some, same]

/-- Taking the hyphens out of groups undoes putting them in. -/
theorem joinGroups_of_splitGroups? {sizes : List Nat} (nonempty : sizes ≠ [])
    {chars digits : List Char} (found : splitGroups? sizes chars = some digits) :
    chars = joinGroups sizes digits ∧ digits.length = sizes.sum := by
  induction sizes generalizing chars digits with
  | nil => exact absurd rfl nonempty
  | cons size rest ih =>
    cases rest with
    | nil =>
      rw [splitGroups?] at found
      split at found
      · rename_i settled
        cases found
        obtain ⟨length, -⟩ := settled
        rw [joinGroups, List.take_of_length_le (Nat.le_of_eq length)]
        exact ⟨rfl, by simpa using length⟩
      · cases found
    | cons next rest =>
      rw [splitGroups?] at found
      split at found
      · rename_i tail after
        dsimp only at found
        split at found
        · cases found
        · obtain ⟨others, split, rfl⟩ := Option.map_eq_some_iff.mp found
          obtain ⟨rfl, length⟩ := ih (List.cons_ne_nil _ _) split
          have lead : (chars.take size).length = size := by
            rw [List.length_take]
            have dropped := congrArg List.length after
            rw [List.length_drop, List.length_cons] at dropped
            omega
          constructor
          · rw [joinGroups_cons, List.take_left' lead, List.drop_left' lead, ← after,
              List.take_append_drop]
          · rw [List.length_append, lead, length, @List.sum_cons _ _ _ size]
      · cases found
      · simp

/-- No hexadecimal digit is a hyphen. -/
theorem Digits.hyphen_notMem {digits : List Char} (wellFormed : Digits digits) : '-' ∉ digits := by
  intro member
  have foreign : '-'.toLower ∉ lowerDigits := by decide
  exact foreign (wellFormed.hex _ member)

theorem Digits.length_joined {digits : List Char} (wellFormed : Digits digits) :
    (joinGroups groups digits).length = 36 := by
  have sum : digits.length = groups.sum := wellFormed.length
  have joined := length_joinGroups (by decide) sum
  rw [wellFormed.length] at joined
  exact Nat.succ.inj joined

theorem ofHyphenated?_eq_some {chars : List Char} {id : Uuid} : ofHyphenated? chars = some id ↔
    ∃ digits, Digits digits ∧ chars = joinGroups groups digits ∧
      id.plain = digits.map Char.toLower := by
  constructor
  · intro read
    obtain ⟨digits, split, found⟩ := Option.bind_eq_some_iff.mp read
    obtain ⟨wellFormed, shown⟩ := ofPlain?_eq_some.mp found
    exact ⟨digits, wellFormed, (joinGroups_of_splitGroups? (by decide) split).1, shown⟩
  · rintro ⟨digits, wellFormed, rfl, shown⟩
    have split : splitGroups? groups (joinGroups groups digits) = some digits :=
      splitGroups?_joinGroups (by decide) wellFormed.length wellFormed.hyphen_notMem
    rw [ofHyphenated?, split, Option.bind_some]
    exact ofPlain?_eq_some.mpr ⟨wellFormed, shown⟩

/-- A text in braces is the text inside of them with the braces put back. -/
theorem eq_braced {chars : List Char} (first : chars.head? = some '\x7b')
    (last : chars.getLast? = some '\x7d') :
    chars = '\x7b' :: (chars.drop 1).dropLast ++ ['\x7d'] := by
  obtain ⟨rest, rfl⟩ := List.head?_eq_some_iff.mp first
  cases rest with
  | nil => cases last
  | cons next others =>
    have inside : (next :: others).getLast? = some '\x7d' := by
      rw [← last, List.getLast?_cons_cons]
    rw [List.drop_one, List.tail_cons, List.cons_append, List.dropLast_append_getLast? _ inside]

/-- What is read is spelled in one of the four ways. -/
theorem spells_of_ofChars? {chars : List Char} {id : Uuid} (read : ofChars? chars = some id) :
    ∃ digits, Digits digits ∧ Spells digits chars ∧ id.plain = digits.map Char.toLower := by
  rw [ofChars?] at read
  split at read
  · obtain ⟨wellFormed, shown⟩ := ofPlain?_eq_some.mp read
    exact ⟨chars, wellFormed, .plain, shown⟩
  · split at read
    · obtain ⟨digits, wellFormed, rfl, shown⟩ := ofHyphenated?_eq_some.mp read
      exact ⟨digits, wellFormed, .hyphenated, shown⟩
    · split at read
      · split at read
        · rename_i braces
          obtain ⟨digits, wellFormed, inner, shown⟩ := ofHyphenated?_eq_some.mp read
          refine ⟨digits, wellFormed, ?_, shown⟩
          rw [eq_braced braces.1 braces.2, inner]
          exact .braced
        · cases read
      · split at read
        · rename_i anyCase
          obtain ⟨digits, wellFormed, rest, shown⟩ := ofHyphenated?_eq_some.mp read
          refine ⟨digits, wellFormed, ?_, shown⟩
          rw [← List.take_append_drop 9 chars, rest]
          exact .urn anyCase
        · cases read

/-- Every spelling is read, as the identifier with the same digits in lower case. -/
theorem ofChars?_of_spells {digits chars : List Char} {id : Uuid} (wellFormed : Digits digits)
    (spells : Spells digits chars) (shown : id.plain = digits.map Char.toLower) :
    ofChars? chars = some id := by
  have joined := wellFormed.length_joined
  have inside : ofHyphenated? (joinGroups groups digits) = some id :=
    ofHyphenated?_eq_some.mpr ⟨digits, wellFormed, rfl, shown⟩
  cases spells with
  | plain =>
    rw [ofChars?, if_pos wellFormed.length]
    exact ofPlain?_eq_some.mpr ⟨wellFormed, shown⟩
  | hyphenated =>
    rw [ofChars?, if_neg (by omega), if_pos joined]
    exact inside
  | braced =>
    have length : ('\x7b' :: joinGroups groups digits ++ ['\x7d']).length = 38 := by
      simp [joined]
    have braces : ('\x7b' :: joinGroups groups digits ++ ['\x7d']).head? = some '\x7b' ∧
        ('\x7b' :: joinGroups groups digits ++ ['\x7d']).getLast? = some '\x7d' :=
      ⟨rfl, List.getLast?_concat⟩
    rw [ofChars?, if_neg (by omega), if_neg (by omega), if_pos length, if_pos braces]
    simpa using inside
  | @urn lead anyCase =>
    have nine : lead.length = 9 := by simpa using congrArg List.length anyCase
    have length : (lead ++ joinGroups groups digits).length = 45 := by
      rw [List.length_append, nine, joined]
    rw [ofChars?, if_neg (by omega), if_neg (by omega), if_neg (by omega), List.take_left' nine,
      List.drop_left' nine]
    exact (if_pos anyCase).trans inside

end Uuid

end GeoChain
