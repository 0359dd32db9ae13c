import GeoChain.Json.Numeral

/-!
# Reading JSON text

One JSON value with optional blanks around it. At most 127 arrays and objects may be nested; the
bound on the nesting is what the reader recurses on. A raw control character in a string, an
escape for half of a surrogate pair, a leading zero and a trailing comma are refused. Of equal
keys in one object the last one counts.
-/

namespace GeoChain

namespace Json

namespace Reader

def isBlank (c : Char) : Bool := c = ' ' || c = '\n' || c = '\t' || c = '\r'

def skipBlanks (chars : List Char) : List Char := chars.dropWhile isBlank

def hexValue? (c : Char) : Option Nat :=
  if c.isDigit then some (c.toNat - '0'.toNat)
  else if 'a' ≤ c ∧ c ≤ 'f' then some (c.toNat - 'a'.toNat + 10)
  else if 'A' ≤ c ∧ c ≤ 'F' then some (c.toNat - 'A'.toNat + 10)
  else none

def codeUnit? (a b c d : Char) : Option Nat := do
  let a ← hexValue? a
  let b ← hexValue? b
  let c ← hexValue? c
  let d ← hexValue? d
  return ((a * 16 + b) * 16 + c) * 16 + d

/-- The character that a backslash and this character stand for. -/
def shortEscape? : Char → Option Char
  | '"' => some '"'
  | '\\' => some '\\'
  | '/' => some '/'
  | 'b' => some '\x08'
  | 'f' => some '\x0c'
  | 'n' => some '\n'
  | 'r' => some '\r'
  | 't' => some '\t'
  | _ => none

/-- The rest of a string after its opening quote, and what follows the closing quote. -/
def string? : List Char → Option (List Char × List Char)
  | [] => none
  | '"' :: rest => some ([], rest)
  | '\\' :: 'u' :: a :: b :: c :: d :: rest =>
    match codeUnit? a b c d with
    | none => none
    | some high =>
      if high < 0xd800 ∨ 0xdfff < high then
        (string? rest).map fun (text, after) => (Char.ofNat high :: text, after)
      else if 0xdc00 ≤ high then none
      else match rest with
        | '\\' :: 'u' :: e :: f :: g :: h :: rest =>
          match codeUnit? e f g h with
          | none => none
          | some low =>
            if low < 0xdc00 ∨ 0xdfff < low then none
            else
              let code := 0x10000 + (high - 0xd800) * 0x400 + (low - 0xdc00)
              (string? rest).map fun (text, after) => (Char.ofNat code :: text, after)
        | _ => none
  | '\\' :: c :: rest =>
    match shortEscape? c with
    | none => none
    | some short => (string? rest).map fun (text, after) => (short :: text, after)
  | c :: rest =>
    if c < ' ' ∨ c = '\\' then none
    else (string? rest).map fun (text, after) => (c :: text, after)

def digits (chars : List Char) : List Nat × List Char :=
  ((chars.takeWhile Char.isDigit).map (fun c => c.toNat - '0'.toNat),
    chars.dropWhile Char.isDigit)

/-- The digits after a point, if there is one. -/
def fraction? : List Char → Option (Option (List Nat) × List Char)
  | '.' :: rest =>
    let (places, rest) := digits rest
    if places.isEmpty then none else some (some places, rest)
  | rest => some (none, rest)

/-- The exponent after its mark, if there is one. -/
def exponent? : List Char → Option (Option Int × List Char)
  | [] => some (none, [])
  | mark :: rest =>
    if mark = 'e' ∨ mark = 'E' then
      let (negative, rest) := match rest with
        | '-' :: rest => (true, rest)
        | '+' :: rest => (false, rest)
        | rest => (false, rest)
      let (places, rest) := digits rest
      let size : Nat := places.foldl (fun value digit => 10 * value + digit) 0
      if places.isEmpty then none else some (some (if negative then -(size : Int) else size), rest)
    else some (none, mark :: rest)

def numeral? (chars : List Char) : Option (Numeral × List Char) := do
  let (negative, chars) := match chars with
    | '-' :: rest => (true, rest)
    | rest => (false, rest)
  let (whole, chars) := digits chars
  guard (¬ whole.isEmpty ∧ ¬ (whole.head? = some 0 ∧ 1 < whole.length))
  let (fraction, chars) ← fraction? chars
  let (exponent, chars) ← exponent? chars
  return (⟨negative, whole, fraction, exponent⟩, chars)

/-- Items separated by commas up to a closing character. Every item takes at least one character,
so the number of characters bounds the number of items. -/
def items? {α : Type} (close : Char) (item? : List Char → Option (α × List Char)) :
    Nat → List Char → Option (List α × List Char)
  | 0, _ => none
  | bound + 1, chars =>
    match item? chars with
    | none => none
    | some (item, rest) =>
      match skipBlanks rest with
      | [] => none
      | c :: rest =>
        if c = ',' then
          (items? close item? bound rest).map fun (items, after) => (item :: items, after)
        else if c = close then some ([item], rest)
        else none

/-- The items of an array or object after its opening character. -/
def sequence? {α : Type} (close : Char) (item? : List Char → Option (α × List Char))
    (chars : List Char) : Option (List α × List Char) :=
  match skipBlanks chars with
  | [] => none
  | c :: rest =>
    if c = close then some ([], rest) else items? close item? (c :: rest).length (c :: rest)

def member? (value? : List Char → Option (Json × List Char)) (chars : List Char) :
    Option ((String × Json) × List Char) :=
  match skipBlanks chars with
  | '"' :: rest =>
    match string? rest with
    | none => none
    | some (key, rest) =>
      match skipBlanks rest with
      | ':' :: rest => (value? rest).map fun (value, after) => ((String.ofList key, value), after)
      | _ => none
  | _ => none

def scalar? (chars : List Char) : Option (Json × List Char) :=
  match chars with
  | 'n' :: 'u' :: 'l' :: 'l' :: rest => some (null, rest)
  | 't' :: 'r' :: 'u' :: 'e' :: rest => some (bool true, rest)
  | 'f' :: 'a' :: 'l' :: 's' :: 'e' :: rest => some (bool false, rest)
  | '"' :: rest => (string? rest).map fun (text, after) => (string (String.ofList text), after)
  | chars => (numeral? chars).bind fun (n, after) => n.value?.map fun value => (value, after)

/-- A value in which at most `depth` arrays and objects are nested. -/
def value? : Nat → List Char → Option (Json × List Char)
  | 0, chars => scalar? (skipBlanks chars)
  | depth + 1, chars =>
    match skipBlanks chars with
    | '[' :: rest => (sequence? ']' (value? depth) rest).map fun (items, after) =>
      (array items, after)
    | '\x7b' :: rest => (sequence? '\x7d' (member? (value? depth)) rest).map
      fun (members, after) => (object (Keyed.ofList members), after)
    | chars => scalar? chars

end Reader

def maxNesting : Nat := 127

def read? (text : String) : Option Json :=
  match Reader.value? maxNesting text.toList with
  | some (value, rest) => if (Reader.skipBlanks rest).isEmpty then some value else none
  | none => none

end Json

end GeoChain
