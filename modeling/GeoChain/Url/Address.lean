import GeoChain.Number.Numeral
import GeoChain.Text.Split
import GeoChain.Url.Percent

/-!
# Numeric hosts

A host that ends in a number is an address of four bytes; its parts may be octal or hexadecimal, and
the last part fills all bytes that are left. A host in brackets is an address of eight pieces; one
run of zero pieces may be left out, and when it is written the first of the longest is.
-/

namespace GeoChain

namespace Url

/-- The value of digits in a base up to sixteen. -/
def baseNumber? (base : Nat) (digits : List Char) : Option Nat :=
  digits.foldlM (fun value c =>
    (hexValue? c).bind fun digit => if digit < base then some (base * value + digit) else none) 0

/-- The number that a part of an address is; `0x` leads hexadecimal and `0` octal digits. -/
def part? : List Char → Option Nat
  | [] => none
  | '0' :: 'x' :: digits | '0' :: 'X' :: digits => baseNumber? 16 digits
  | '0' :: c :: digits => baseNumber? 8 (c :: digits)
  | digits => baseNumber? 10 digits

/-- The parts between dots, without an empty last one. -/
def dottedParts (chars : List Char) : List (List Char) :=
  let parts := Text.split '.' chars
  if parts.getLast? = some [] ∧ 1 < parts.length then parts.dropLast else parts

def endsInNumber (chars : List Char) : Bool :=
  match (dottedParts chars).getLast? with
  | none => false
  | some last => (!last.isEmpty && last.all Char.isDigit) || (part? last).isSome

/-- The 32 bits of an address of up to four parts. -/
def fourBytes? (chars : List Char) : Option Nat := do
  let numbers ← (dottedParts chars).mapM part?
  let last ← numbers.getLast?
  let leading := numbers.dropLast
  let scale := Nat.pow 256 (4 - leading.length)
  if 3 < leading.length ∨ ¬ leading.all (· ≤ 255) ∨ scale ≤ last then none
  else
    let lead := leading.foldl (fun value n => 256 * value + n) 0
    return lead * scale + last

def fourBytesText (bits : Nat) : List Char :=
  let bytes := [bits / Nat.pow 2 24, bits / Nat.pow 2 16 % 256, bits / 256 % 256, bits % 256]
  ".".toList.intercalate (bytes.map (Nat.toDigits 10))

/-- A byte in decimal, without leading zeros. -/
def decimalByte? (digits : List Char) : Option Nat :=
  if digits.isEmpty ∨ 3 < digits.length ∨ ¬ digits.all Char.isDigit then none
  else if digits.head? = some '0' ∧ 1 < digits.length then none
  else
    let value := Numeral.digitsValue digits
    if value ≤ 255 then some value else none

/-- Two pieces that are written as four bytes. -/
def bytesAsPieces? (chars : List Char) : Option (List Nat) := do
  let bytes ← (Text.split '.' chars).mapM decimalByte?
  match bytes with
  | [a, b, c, d] => some [256 * a + b, 256 * c + d]
  | _ => none

def piece? (digits : List Char) : Option Nat :=
  if digits.isEmpty ∨ 4 < digits.length then none else baseNumber? 16 digits

/-- Pieces with colons between them; at the very end of an address the last two may be bytes. -/
def pieces? (isEnd : Bool) (chars : List Char) : Option (List Nat) := do
  let groups := Text.split ':' chars
  let last ← groups.getLast?
  let leading ← groups.dropLast.mapM piece?
  if isEnd ∧ last.contains '.' then return leading ++ (← bytesAsPieces? last)
  else return leading ++ [← piece? last]

def somePieces? (isEnd : Bool) (chars : List Char) : Option (List Nat) :=
  if chars.isEmpty then some [] else pieces? isEnd chars

/-- What stands before and after the first pair of colons. -/
def splitGap? : List Char → Option (List Char × List Char)
  | ':' :: ':' :: rest => some ([], rest)
  | c :: rest => (splitGap? rest).map fun (before, after) => (c :: before, after)
  | [] => none

def eightPieces? (chars : List Char) : Option (List Nat) :=
  match splitGap? chars with
  | some (before, after) => do
    let left ← somePieces? false before
    let right ← somePieces? true after
    let known := left.length + right.length
    if 7 < known then none else return left ++ List.replicate (8 - known) 0 ++ right
  | none => do
    let pieces ← pieces? true chars
    if pieces.length = 8 then return pieces else none

/-- How many pieces in front are zero. -/
def zeroRun (pieces : List Nat) : Nat := (pieces.takeWhile (· = 0)).length

/-- The longest run of zero pieces in a list. -/
def longestRun : List Nat → Nat
  | [] => 0
  | piece :: rest => max (zeroRun (piece :: rest)) (longestRun rest)

/-- The pieces before the first run of so many zeros. -/
def beforeRun (length : Nat) : List Nat → List Nat
  | [] => []
  | piece :: rest =>
    if zeroRun (piece :: rest) = length then [] else piece :: beforeRun length rest

def pieceTexts (pieces : List Nat) : List Char :=
  ":".toList.intercalate (pieces.map (Nat.toDigits 16))

def eightPiecesText (pieces : List Nat) : List Char :=
  let run := longestRun pieces
  if run < 2 then pieceTexts pieces
  else
    let before := beforeRun run pieces
    pieceTexts before ++ "::".toList ++ pieceTexts (pieces.drop (before.length + run))

end Url

end GeoChain
