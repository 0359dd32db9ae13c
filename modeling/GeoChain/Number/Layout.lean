import GeoChain.Number.Shortest

/-!
# Written numbers

Two layouts of a double. Plain text is always positional and drops an empty fraction. A JSON number
keeps at least one digit after the point and turns to an exponent below `1e-5` and from `1e16` on.
The two formats also differ in the tie rule of the digits.
-/

namespace GeoChain

namespace Decimal

def digitChars (d : Decimal) : List Char := Nat.toDigits 10 d.digits

/-- How many digits stand before the point. -/
def point (d : Decimal) : Int := d.digitChars.length + d.exponent

/-- Digits with a point among them; `whole` closes a number without fraction. -/
def positional (whole : List Char) (d : Decimal) : List Char :=
  let digits := d.digitChars
  if d.point ≤ 0 then '0' :: '.' :: List.replicate (-d.point).toNat '0' ++ digits
  else if 0 ≤ d.exponent then digits ++ List.replicate d.exponent.toNat '0' ++ whole
  else digits.take d.point.toNat ++ '.' :: digits.drop d.point.toNat

/-- One digit before the point and a signed exponent. -/
def scientific (d : Decimal) : List Char :=
  let exponent := d.point - 1
  let mantissa := match d.digitChars with
    | lead :: tail => if tail.isEmpty then [lead] else lead :: '.' :: tail
    | [] => []
  let sign := if 0 ≤ exponent then '+' else '-'
  mantissa ++ 'e' :: sign :: Nat.toDigits 10 exponent.natAbs

end Decimal

namespace Double

def signed (x : Double) (magnitude : List Char) : String :=
  String.ofList (if x.negative then '-' :: magnitude else magnitude)

/-- The plain text of a number, such as `0.00001`, `-0` or `1000000000000000000000`. -/
def plainText (x : Double) : String :=
  x.signed (if x.isZero then ['0'] else (x.shortest .away).positional [])

/-- The JSON text of a number, such as `0.00001`, `-0.0` or `1e+21`. -/
def jsonText (x : Double) : String :=
  x.signed (if x.isZero then ['0', '.', '0']
    else
      let d := x.shortest .toEven
      if -5 < d.point ∧ d.point ≤ 16 then d.positional ['.', '0'] else d.scientific)

end Double

end GeoChain
