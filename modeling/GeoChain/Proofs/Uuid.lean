import GeoChain.Uuid
import Mathlib

/-!
# Reading an identifier that was written

The hexadecimal digits of an identifier give its number back, and the hyphens that are put between
the groups of digits are taken out again.
-/

namespace GeoChain

namespace Uuid

theorem hexValue?_digitChar : ∀ n < 16, hexValue? (Nat.digitChar n) = some n := by
  decide

theorem digitChar_ne_hyphen : ∀ n < 16, Nat.digitChar n ≠ '-' := by
  decide

theorem length_hexDigits (count value : Nat) : (hexDigits count value).length = count := by
  induction count generalizing value with
  | zero => rfl
  | succ count ih => rw [hexDigits, List.length_append, ih, List.length_singleton]

/-- No character occurs that is not a digit. -/
theorem not_mem_hexDigits {c : Char} (foreign : ∀ n < 16, Nat.digitChar n ≠ c)
    (count value : Nat) : c ∉ hexDigits count value := by
  induction count generalizing value with
  | zero => exact List.not_mem_nil
  | succ count ih =>
    rw [hexDigits, List.mem_append, List.mem_singleton]
    rintro (early | last)
    · exact ih _ early
    · exact foreign _ (Nat.mod_lt value (by decide)) last.symm

theorem hexNumber?_hexDigits (count value : Nat) :
    hexNumber? (hexDigits count value) = some (value % 16 ^ count) := by
  induction count generalizing value with
  | zero => simp [hexDigits, hexNumber?, Nat.mod_one]
  | succ count ih =>
    have digit : value % 16 < 16 := Nat.mod_lt value (by decide)
    have lead := ih (value / 16)
    rw [hexNumber?] at lead
    rw [hexDigits, hexNumber?, List.foldlM_append, lead]
    simp only [List.foldlM_cons, List.foldlM_nil, hexValue?_digitChar _ digit]
    have sum : 16 * (value / 16 % 16 ^ count) + value % 16 = value % 16 ^ (count + 1) := by
      rw [Nat.pow_succ', Nat.mod_mul, Nat.add_comm]
    exact congrArg some sum

theorem joinGroups_cons (size next : Nat) (rest : List Nat) (digits : List Char) :
    joinGroups (size :: next :: rest) digits =
      digits.take size ++ '-' :: joinGroups (next :: rest) (digits.drop size) :=
  rfl

theorem length_joinGroups {sizes : List Nat} (nonempty : sizes ≠ []) {digits : List Char}
    (length : digits.length = sizes.sum) :
    (joinGroups sizes digits).length + 1 = digits.length + sizes.length := by
  induction sizes generalizing digits with
  | nil => exact absurd rfl nonempty
  | cons size rest ih =>
    rw [List.sum_cons] at length
    cases rest with
    | nil => simp [joinGroups, length]
    | cons next rest =>
      have after : (digits.drop size).length = (next :: rest).sum := by
        rw [List.length_drop]
        omega
      have tail := ih (List.cons_ne_nil _ _) after
      rw [joinGroups_cons, List.length_append, List.length_cons, List.length_take,
        List.length_cons]
      rw [List.length_drop] at tail
      omega

/-- Where the digits have no hyphen, those between the groups are taken out again. -/
theorem splitGroups?_joinGroups {sizes : List Nat} (nonempty : sizes ≠ []) {digits : List Char}
    (length : digits.length = sizes.sum) (plain : '-' ∉ digits) :
    splitGroups? sizes (joinGroups sizes digits) = some digits := by
  induction sizes generalizing digits with
  | nil => exact absurd rfl nonempty
  | cons size rest ih =>
    rw [List.sum_cons] at length
    cases rest with
    | nil =>
      have whole : digits.take size = digits := List.take_of_length_le (Nat.le_of_eq length)
      rw [joinGroups, whole, splitGroups?, if_pos]
      exact ⟨by simpa using length, by simpa using plain⟩
    | cons next rest =>
      have lead : (digits.take size).length = size := by
        rw [List.length_take]
        omega
      have after : (digits.drop size).length = (next :: rest).sum := by
        rw [List.length_drop]
        omega
      have plainLead : '-' ∉ digits.take size := fun member => plain (List.mem_of_mem_take member)
      have plainAfter : '-' ∉ digits.drop size := fun member => plain (List.mem_of_mem_drop member)
      rw [joinGroups_cons, splitGroups?, List.drop_left' lead, List.take_left' lead]
      · simp only [List.contains_eq_mem, plainLead, decide_false, Bool.false_eq_true, if_false,
          ih (List.cons_ne_nil _ _) after plainAfter, Option.map_some, List.take_append_drop]
      · simp

theorem toNat_mod (id : Uuid) : id.bits.toNat % 16 ^ 32 = id.bits.toNat :=
  Nat.mod_eq_of_lt id.bits.isLt

theorem ofChars?_hyphenated (id : Uuid) : ofChars? id.hyphenated = some id := by
  have digits : id.plain.length = 32 := length_hexDigits 32 _
  have sum : id.plain.length = groups.sum := digits
  have long : id.hyphenated.length = 36 := by
    have joined := length_joinGroups (by decide) sum
    rw [digits] at joined
    exact Nat.succ.inj joined
  rw [ofChars?, if_neg (by omega), if_pos long, ofHyphenated?, hyphenated,
    splitGroups?_joinGroups (by decide) sum (not_mem_hexDigits digitChar_ne_hyphen 32 _),
    Option.bind_some, ofPlain?, if_pos digits, plain, hexNumber?_hexDigits, toNat_mod]
  rw [Option.map_some, BitVec.ofNat_toNat, BitVec.setWidth_eq]

theorem plainText_inj {one other : Uuid} : one.plainText = other.plainText ↔ one = other := by
  constructor
  · intro same
    have digits : hexDigits 32 one.bits.toNat = hexDigits 32 other.bits.toNat :=
      String.ofList_injective same
    have numbers := congrArg hexNumber? digits
    rw [hexNumber?_hexDigits, hexNumber?_hexDigits, Option.some_inj, toNat_mod,
      toNat_mod] at numbers
    cases one
    cases other
    exact congrArg mk (BitVec.eq_of_toNat_eq numbers)
  · rintro rfl
    rfl

end Uuid

end GeoChain
