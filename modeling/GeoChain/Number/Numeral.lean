import GeoChain.Number.Double

/-!
# Numerals in text

A numeral is an optional sign and then digits with an optional point and an optional exponent, or
one of the words `inf`, `infinity` and `nan` in any case. The value is the nearest double. A word,
or a numeral beyond the largest double, is read but is not finite.
-/

namespace GeoChain

namespace Numeral

inductive Problem where
  | empty
  | invalid
deriving DecidableEq, Repr

def Problem.message : Problem → String
  | .empty => "cannot parse float from empty string"
  | .invalid => "invalid float literal"

inductive Value where
  | finite (x : Double)
  | notFinite
deriving DecidableEq

def digitsValue (digits : List Char) : Nat :=
  digits.foldl (fun value c => 10 * value + (c.toNat - '0'.toNat)) 0

def isWord (chars : List Char) : Bool :=
  let lower := chars.map Char.toLower
  lower = ['i', 'n', 'f'] || lower = ['i', 'n', 'f', 'i', 'n', 'i', 't', 'y'] ||
    lower = ['n', 'a', 'n']

/-- The sign in front of a numeral, and what follows it. -/
def splitSign : List Char → Bool × List Char
  | '-' :: rest => (true, rest)
  | '+' :: rest => (false, rest)
  | chars => (false, chars)

/-- The exponent that makes up the rest of a numeral. -/
def exponent? : List Char → Option Int
  | [] => some 0
  | mark :: rest =>
    if mark = 'e' ∨ mark = 'E' then
      let (negative, digits) := splitSign rest
      if digits.isEmpty ∨ ¬ digits.all Char.isDigit then none
      else if negative then some (-(digitsValue digits : Int)) else some (digitsValue digits)
    else none

/-- Digits with an optional point, and then an optional exponent. -/
def unsigned? (negative : Bool) (chars : List Char) : Option Value :=
  let whole := chars.takeWhile Char.isDigit
  let afterWhole := chars.dropWhile Char.isDigit
  let (fraction, rest) := match afterWhole with
    | '.' :: tail => (tail.takeWhile Char.isDigit, tail.dropWhile Char.isDigit)
    | _ => ([], afterWhole)
  if whole.isEmpty ∧ fraction.isEmpty then none
  else
    (exponent? rest).map fun exponent =>
      match Double.ofDecimal? negative (digitsValue (whole ++ fraction))
          (exponent - fraction.length) with
      | some x => .finite x
      | none => .notFinite

def read (chars : List Char) : Except Problem Value :=
  if chars.isEmpty then .error .empty
  else
    let (negative, body) := splitSign chars
    if isWord body then .ok .notFinite
    else match unsigned? negative body with
      | some value => .ok value
      | none => .error .invalid

end Numeral

end GeoChain
