/-!
# Finite double-precision numbers

A finite double is a sign and a significand times a power of two, in the one form that the
64-bit format gives it. All arithmetic is exact arithmetic on natural numbers followed by one
rounding to the nearest double, ties to the even significand. A result too large to be finite is
`none`; one too small becomes zero.
-/

namespace GeoChain

/-- The significands and exponents of the 64-bit format: subnormal or normal. -/
def Representable (significand : Nat) (exponent : Int) : Prop :=
  (significand < Nat.pow 2 52 ∧ exponent = -1074) ∨
    (Nat.pow 2 52 ≤ significand ∧ significand < Nat.pow 2 53 ∧ -1074 ≤ exponent ∧ exponent ≤ 971)

instance (significand : Nat) (exponent : Int) : Decidable (Representable significand exponent) :=
  inferInstanceAs (Decidable (_ ∨ _))

/-- The number `± significand · 2 ^ exponent`. -/
structure Double where
  negative : Bool
  significand : Nat
  exponent : Int
  representable : Representable significand exponent
deriving DecidableEq

namespace Double

def zero (negative : Bool) : Double := ⟨negative, 0, -1074, .inl ⟨by decide, rfl⟩⟩

instance : Inhabited Double := ⟨zero false⟩

def isZero (x : Double) : Bool := x.significand = 0

def ofParts? (negative : Bool) (significand : Nat) (exponent : Int) : Option Double :=
  if fits : Representable significand exponent then some ⟨negative, significand, exponent, fits⟩
  else none

/-- The magnitude as a quotient of natural numbers. -/
def ratio (x : Double) : Nat × Nat :=
  if 0 ≤ x.exponent then (x.significand * Nat.pow 2 x.exponent.toNat, 1)
  else (x.significand, Nat.pow 2 (-x.exponent).toNat)

/-- The integer nearest to a quotient, a half going to the even neighbour. -/
def nearest (num den : Nat) : Nat :=
  let floor := num / den
  let twice := 2 * (num % den)
  if twice < den then floor
  else if den < twice then floor + 1
  else if floor % 2 = 0 then floor else floor + 1

/-- The largest power of two that is at most the quotient of two positive numbers. -/
def binaryMagnitude (num den : Nat) : Int :=
  let guess : Int := (num.log2 : Int) - (den.log2 : Int)
  let reached :=
    if 0 ≤ guess then den * Nat.pow 2 guess.toNat ≤ num
    else den ≤ num * Nat.pow 2 (-guess).toNat
  if reached then guess else guess - 1

/-- The double nearest to `num / den`, if it is finite. -/
def ofRatio? (negative : Bool) (num den : Nat) : Option Double :=
  if num = 0 then some (zero negative)
  else
    let exponent := max (-1074) (binaryMagnitude num den - 52)
    let significand :=
      if 0 ≤ exponent then nearest num (den * Nat.pow 2 exponent.toNat)
      else nearest (num * Nat.pow 2 (-exponent).toNat) den
    if significand = Nat.pow 2 53 then ofParts? negative (Nat.pow 2 52) (exponent + 1)
    else ofParts? negative significand exponent

def ofNat? (negative : Bool) (n : Nat) : Option Double := ofRatio? negative n 1

/-- How many decimal digits a number has; zero has none. -/
def decimalLength (n : Nat) : Nat := if n = 0 then 0 else (Nat.toDigits 10 n).length

/-- The double nearest to `digits · 10 ^ exponent`, if it is finite. Exponents far outside the
range of doubles are settled by the length of the number alone. -/
def ofDecimal? (negative : Bool) (digits : Nat) (exponent : Int) : Option Double :=
  if digits = 0 then some (zero negative)
  else if 400 < (decimalLength digits : Int) + exponent then none
  else if (decimalLength digits : Int) + exponent < -400 then some (zero negative)
  else if 0 ≤ exponent then ofRatio? negative (digits * Nat.pow 10 exponent.toNat) 1
  else ofRatio? negative digits (Nat.pow 10 (-exponent).toNat)

/-- The product, rounded once. -/
def mul? (x y : Double) : Option Double :=
  ofRatio? (x.negative != y.negative) (x.ratio.1 * y.ratio.1) (x.ratio.2 * y.ratio.2)

/-- The quotient by a number that is not zero, rounded once. -/
def div? (x y : Double) : Option Double :=
  ofRatio? (x.negative != y.negative) (x.ratio.1 * y.ratio.2) (x.ratio.2 * y.ratio.1)

def negate (x : Double) : Double := { x with negative := !x.negative }

example : (ofDecimal? false 1 (-1)).map (·.significand) = some 7205759403792794 := by
  decide +kernel

example : ofDecimal? false 17976931348623159 292 = none := by decide +kernel

example : (ofDecimal? true 5 (-324)).map (·.significand) = some 1 := by decide +kernel

end Double

end GeoChain
