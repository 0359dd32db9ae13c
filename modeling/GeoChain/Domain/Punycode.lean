/-!
# Punycode

A text outside ASCII is written in ASCII letters and digits: first its ASCII characters, then the
places of the other ones in order of their code points, as differences in a number system whose
digit weights adapt to the numbers before.
-/

namespace GeoChain

namespace Domain

namespace Punycode

def digit (n : Nat) : Char := if n < 26 then Char.ofNat ('a'.toNat + n) else Char.ofNat (22 + n)

def digitValue? (c : Char) : Option Nat :=
  if c.isDigit then some (c.toNat - '0'.toNat + 26)
  else if c.isAlpha then some (c.toLower.toNat - 'a'.toNat)
  else none

/-- The digit that ends a number at a place. -/
def threshold (bias place : Nat) : Nat :=
  if place ≤ bias + 1 then 1 else if bias + 26 ≤ place then 26 else place - bias

theorem threshold_pos (bias place : Nat) : 1 ≤ threshold bias place := by
  unfold threshold
  split
  · omega
  · split <;> omega

/-- How often a difference is cut down, and what is left of it. -/
def shrink (delta : Nat) : Nat × Nat :=
  if 455 < delta then
    let (steps, left) := shrink (delta / 35)
    (steps + 1, left)
  else (0, delta)
termination_by delta
decreasing_by omega

/-- The bias after a difference, when so many characters are written. -/
def adapt (delta written : Nat) (isFirst : Bool) : Nat :=
  let damped := if isFirst then delta / 700 else delta / 2
  let (steps, left) := shrink (damped + damped / written)
  36 * steps + 36 * left / (left + 38)

/-- The digits of a difference, from a place on. -/
def digits (bias place delta : Nat) : List Char :=
  let least := threshold bias place
  if delta < least then [digit delta]
  else
    digit (least + (delta - least) % (36 - least)) ::
      digits bias (place + 36) ((delta - least) / (36 - least))
termination_by delta
decreasing_by
  have positive := threshold_pos bias place
  have smaller := Nat.div_le_self (delta - threshold bias place) (36 - threshold bias place)
  omega

structure Writer where
  written : Nat
  delta : Nat
  bias : Nat
  chars : List Char

/-- Passes a character of the text while the places of one code point are written. -/
def pass (basic code : Nat) (writer : Writer) (c : Char) : Writer :=
  if c.toNat < code then { writer with delta := writer.delta + 1 }
  else if c.toNat = code then
    { written := writer.written + 1
      delta := 0
      bias := adapt writer.delta (writer.written + 1) (writer.written = basic)
      chars := writer.chars ++ digits writer.bias 36 writer.delta }
  else writer

/-- Writes the places of all code points, which increase. -/
def writePlaces (basic : Nat) (text : List Char) : (next : Nat) → List Nat → Writer → Writer
  | _, [], writer => writer
  | next, code :: codes, writer =>
    let start := { writer with delta := writer.delta + (code - next) * (writer.written + 1) }
    let passed := text.foldl (pass basic code) start
    writePlaces basic text (code + 1) codes { passed with delta := passed.delta + 1 }

def insertCode (code : Nat) : List Nat → List Nat
  | [] => [code]
  | other :: rest =>
    if code < other then code :: other :: rest
    else if code = other then other :: rest
    else other :: insertCode code rest

def isBasic (c : Char) : Bool := c.toNat < 128

def encode (text : List Char) : List Char :=
  let basic := text.filter isBasic
  let others := text.filter (fun c => !isBasic c)
  let codes := others.foldr (fun c codes => insertCode c.toNat codes) []
  let writer := writePlaces basic.length text 128 codes ⟨basic.length, 0, 72, []⟩
  (if basic.isEmpty then [] else basic ++ ['-']) ++ writer.chars

/-- Where a reader stands: inside a number, of which `sum` is known and whose next digit has the
weight `weight` and the place `place`. -/
structure Reader where
  text : List Char
  code : Nat
  index : Nat
  bias : Nat
  sum : Nat
  weight : Nat
  place : Nat

/-- Puts the character that a finished number stands for into the text. -/
def Reader.finish? (reader : Reader) (sum : Nat) : Option Reader :=
  let length := reader.text.length + 1
  let code := reader.code + sum / length
  let index := sum % length
  if code.isValidChar then
    some {
      text := reader.text.take index ++ Char.ofNat code :: reader.text.drop index
      code
      index := index + 1
      bias := adapt (sum - reader.index) length (reader.index = 0)
      sum := index + 1
      weight := 1
      place := 36 }
  else none

def readPlaces? : List Char → Reader → Option (List Char)
  | [], reader => if reader.place = 36 then some reader.text else none
  | c :: rest, reader =>
    match digitValue? c with
    | none => none
    | some value =>
      let sum := reader.sum + value * reader.weight
      let least := threshold reader.bias reader.place
      if value < least then (reader.finish? sum).bind (readPlaces? rest)
      else
        readPlaces? rest { reader with
          sum, weight := reader.weight * (36 - least), place := reader.place + 36 }

/-- What stands before and after the last hyphen; a hyphen in front parts nothing. -/
def splitLast (chars : List Char) : List Char × List Char :=
  let tail := (chars.reverse.takeWhile (· ≠ '-')).reverse
  if tail.length + 1 < chars.length then (chars.take (chars.length - tail.length - 1), tail)
  else ([], chars)

def decode? (chars : List Char) : Option (List Char) :=
  let (basic, places) := splitLast chars
  if basic.all isBasic then readPlaces? places ⟨basic, 128, 0, 72, 0, 1, 36⟩ else none

end Punycode

end Domain

end GeoChain
