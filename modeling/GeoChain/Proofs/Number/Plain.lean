import GeoChain.Number.Layout
import Mathlib.Tactic.SplitIfs

/-!
# Plain numbers

The plain text of a double is positional, however large or small the double is: a minus sign or
none, digits, and a point with more digits behind it or neither. There are digits on both sides of
a point, so a number never starts or ends with it.
-/

namespace GeoChain

/-- One digit or more. -/
structure IsDigits (chars : List Char) : Prop where
  nonempty : chars ≠ []
  digits : ∀ c ∈ chars, c.isDigit

/-- Digits, and perhaps a point and more digits. -/
inductive IsPositional : List Char → Prop where
  | whole {digits : List Char} (proper : IsDigits digits) : IsPositional digits
  | pointed {digits places : List Char} (proper : IsDigits digits) (fraction : IsDigits places) :
    IsPositional (digits ++ '.' :: places)

/-- A positional number, with a minus sign before it or not. -/
inductive IsPlain : List Char → Prop where
  | positive {chars : List Char} (magnitude : IsPositional chars) : IsPlain chars
  | negative {chars : List Char} (magnitude : IsPositional chars) : IsPlain ('-' :: chars)

namespace IsDigits

variable {chars : List Char}

theorem of_toDigits (n : Nat) : IsDigits (Nat.toDigits 10 n) where
  nonempty := Nat.toDigits_ne_nil
  digits := fun _ member => Nat.isDigit_of_mem_toDigits (by decide) (by decide) member

theorem append (proper : IsDigits chars) {more : List Char} (digits : ∀ c ∈ more, c.isDigit) :
    IsDigits (chars ++ more) where
  nonempty := List.append_ne_nil_of_left_ne_nil proper.nonempty more
  digits := List.forall_mem_append.mpr ⟨proper.digits, digits⟩

theorem prepend (proper : IsDigits chars) {more : List Char} (digits : ∀ c ∈ more, c.isDigit) :
    IsDigits (more ++ chars) where
  nonempty := List.append_ne_nil_of_right_ne_nil more proper.nonempty
  digits := List.forall_mem_append.mpr ⟨digits, proper.digits⟩

theorem take (proper : IsDigits chars) {n : Nat} (positive : 0 < n) :
    IsDigits (chars.take n) where
  nonempty := by simp [proper.nonempty, Nat.ne_of_gt positive]
  digits := fun c member => proper.digits c (List.mem_of_mem_take member)

theorem drop (proper : IsDigits chars) {n : Nat} (inside : n < chars.length) :
    IsDigits (chars.drop n) where
  nonempty := by simpa using inside
  digits := fun c member => proper.digits c (List.mem_of_mem_drop member)

end IsDigits

theorem isDigit_of_mem_zeros (n : Nat) : ∀ c ∈ List.replicate n '0', c.isDigit := by
  intro c member
  rw [List.eq_of_mem_replicate member]
  rfl

theorem isDigits_zero : IsDigits ['0'] := ⟨List.cons_ne_nil _ _, List.forall_mem_singleton.mpr rfl⟩

theorem Decimal.isPositional_positional (d : Decimal) : IsPositional (d.positional []) := by
  have digits : IsDigits d.digitChars := .of_toDigits d.digits
  have point : d.point = d.digitChars.length + d.exponent := rfl
  dsimp only [Decimal.positional]
  split_ifs with small large
  · exact .pointed isDigits_zero (digits.prepend (isDigit_of_mem_zeros _))
  · rw [List.append_nil]
    exact .whole (digits.append (isDigit_of_mem_zeros _))
  -- The exponent is negative here, so the point stands before the last digit.
  · exact .pointed (digits.take (by omega)) (digits.drop (by omega))

theorem Double.isPlain_plainText (x : Double) : IsPlain x.plainText.toList := by
  have magnitude : IsPositional
      (if x.isZero then ['0'] else (x.shortest .away).positional []) := by
    split
    · exact .whole isDigits_zero
    · exact Decimal.isPositional_positional _
  rw [plainText, signed, String.toList_ofList]
  split
  · exact .negative magnitude
  · exact .positive magnitude

end GeoChain
