import GeoChain.Number.Double

/-!
# The shortest decimal that reads back

Of all decimals that read back to a given double, one with the fewest digits is written, and of
those the nearest. The search tries 1, 2, … 17 digits; on each grid only the two neighbours of the
value can be nearest. Two neighbours that are equally near are told apart by a tie rule, which
belongs to the format. The exact expansion stands behind the search, so that what is chosen always
reads back.
-/

namespace GeoChain

/-- The positive number `digits · 10 ^ exponent`. -/
structure Decimal where
  digits : Nat
  exponent : Int
deriving DecidableEq, Repr

/-- Which of two equally near decimals is written. -/
inductive Tie where
  | toEven
  | away
deriving DecidableEq, Repr

namespace Decimal

/-- Moves the zeros at the end of the digits into the exponent. -/
def trim : Nat → Decimal → Decimal
  | 0, d => d
  | fuel + 1, d =>
    if d.digits ≠ 0 ∧ d.digits % 10 = 0 then trim fuel ⟨d.digits / 10, d.exponent + 1⟩ else d

def ReadsBack (x : Double) (d : Decimal) : Prop :=
  Double.ofDecimal? x.negative d.digits d.exponent = some x

instance (x : Double) (d : Decimal) : Decidable (ReadsBack x d) :=
  inferInstanceAs (Decidable (_ = _))

end Decimal

namespace Double

/-- The `k` with `10 ^ (k - 1) ≤ |x| < 10 ^ k`, for a number that is not zero. -/
def decimalMagnitude (x : Double) : Int :=
  let (num, den) := x.ratio
  if den ≤ num then (decimalLength (num / den) : Int)
  else 1 - (decimalLength ((den + num - 1) / num - 1) : Int)

/-- The multiple of `10 ^ exponent` just below the magnitude, and whether the middle between it and
the next one is below, at or above the magnitude. -/
def below (x : Double) (exponent : Int) : Nat × Ordering :=
  let (num, den) := x.ratio
  let num := if 0 ≤ exponent then num else num * Nat.pow 10 (-exponent).toNat
  let den := if 0 ≤ exponent then den * Nat.pow 10 exponent.toNat else den
  (num / den, compare den (2 * (num % den)))

/-- The nearest decimal on the grid `10 ^ exponent` among those that read back. -/
def onGrid? (tie : Tie) (x : Double) (exponent : Int) : Option Decimal :=
  let (floor, middle) := x.below exponent
  let low : Decimal := ⟨floor, exponent⟩
  let high : Decimal := ⟨floor + 1, exponent⟩
  let lowFirst := match middle, tie with
    | .gt, _ => true
    | .lt, _ => false
    | .eq, .toEven => floor % 2 = 0
    | .eq, .away => false
  let (first, second) := if lowFirst then (low, high) else (high, low)
  if first.ReadsBack x then some first
  else if second.ReadsBack x then some second
  else none

/-- All digits of the value. -/
def expansion (x : Double) : Decimal :=
  if 0 ≤ x.exponent then ⟨x.significand * Nat.pow 2 x.exponent.toNat, 0⟩
  else ⟨x.significand * Nat.pow 5 (-x.exponent).toNat, x.exponent⟩

/-- The decimal that is written for a number that is not zero. -/
def shortest (tie : Tie) (x : Double) : Decimal :=
  let magnitude := x.decimalMagnitude
  let found := (List.range 17).findSome? (fun (n : Nat) => x.onGrid? tie (magnitude - (n + 1)))
  let chosen := found.getD x.expansion
  chosen.trim (decimalLength chosen.digits)

example : (ofDecimal? false 1 (-1)).map (shortest .toEven) = some ⟨1, -1⟩ := by decide +kernel

example : (ofDecimal? false 5 (-324)).map (shortest .toEven) = some ⟨5, -324⟩ := by decide +kernel

example : ((ofRatio? false 1 (2 ^ 25)).map (shortest .toEven),
    (ofRatio? false 1 (2 ^ 25)).map (shortest .away)) =
      (some ⟨29802322387695312, -24⟩, some ⟨29802322387695313, -24⟩) := by decide +kernel

end Double

end GeoChain
