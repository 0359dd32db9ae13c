import GeoChain.Json.Basic

/-!
# The value of a JSON number

A number without point and exponent is an exact integer if it fits into 64 bits. Every other number
is a double that is read in two steps. The digits that fit into 64 bits form the significand; the
remaining digits before the point only raise the exponent, and those after it are dropped. The
double nearest to the significand is then multiplied or divided by the double nearest to the power
of ten. A number that would not be finite is refused.
-/

namespace GeoChain

namespace Json

/-- The parts of a written number. -/
structure Numeral where
  negative : Bool
  whole : List Nat
  fraction : Option (List Nat)
  exponent : Option Int
deriving DecidableEq, Repr

namespace Numeral

/-- Appends digits to a significand while it fits into 64 bits, and counts those taken. -/
def absorb (significand : Nat) : List Nat → Nat × Nat
  | [] => (significand, 0)
  | digit :: rest =>
    if 10 * significand + digit < Nat.pow 2 64 then
      let (value, taken) := absorb (10 * significand + digit) rest
      (value, taken + 1)
    else (significand, 0)

def powerOfTen? (exponent : Nat) : Option Double := Double.ofDecimal? false 1 exponent

/-- The largest power of ten below the largest double. -/
def largestPower : Nat := 308

/-- Division by `10 ^ (308 * steps + exponent)`, the steps first; zero stays zero. -/
def shrink? (exponent : Nat) : (steps : Nat) → Double → Option Double
  | 0, x => (powerOfTen? exponent).bind x.div?
  | steps + 1, x =>
    if x.isZero then some x
    else ((powerOfTen? largestPower).bind x.div?).bind (shrink? exponent steps)

def scale? (x : Double) (exponent : Int) : Option Double :=
  if exponent < 0 then
    let steps := ((-exponent).toNat - 1) / largestPower
    shrink? ((-exponent).toNat - steps * largestPower) steps x
  else if exponent ≤ largestPower then (powerOfTen? exponent.toNat).bind x.mul?
  else if x.isZero then some x
  else none

def double? (n : Numeral) : Option Double :=
  let (whole, taken) := absorb 0 n.whole
  let (significand, places) := absorb whole (n.fraction.getD [])
  let exponent : Int := (n.whole.length - taken : Nat) - (places : Int) + n.exponent.getD 0
  (Double.ofNat? false significand).bind fun x =>
    (scale? x exponent).map fun y => if n.negative then y.negate else y

def value? (n : Numeral) : Option Json :=
  let magnitude : Nat := n.whole.foldl (fun value digit => 10 * value + digit) 0
  let exact : Int := if n.negative then -magnitude else magnitude
  if n.fraction.isNone ∧ n.exponent.isNone ∧ isExact exact ∧ ¬ (n.negative ∧ exact = 0) then
    some (int exact)
  else (double? n).map float

end Numeral

end Json

end GeoChain
