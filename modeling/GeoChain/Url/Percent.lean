/-!
# Percent encoding

A character that may not stand in a part of a URL is written as the bytes of its UTF-8 form, each as
`%` and two hexadecimal digits. Control characters and everything outside ASCII are always written
so; which other characters are depends on the part. A `%` itself is left as it is.
-/

namespace GeoChain

namespace Url

def upperHexDigit (n : Nat) : Char := (Nat.digitChar (n % 16)).toUpper

def encodeByte (byte : UInt8) : List Char :=
  ['%', upperHexDigit (byte.toNat / 16), upperHexDigit byte.toNat]

/-- Whether a character is always encoded. -/
def isAlwaysEncoded (c : Char) : Bool := c < ' ' || '\x7f' ≤ c

def encodeChar (encoded : List Char) (c : Char) : List Char :=
  if isAlwaysEncoded c || encoded.contains c then (String.utf8EncodeChar c).flatMap encodeByte
  else [c]

def encode (encoded chars : List Char) : List Char := chars.flatMap (encodeChar encoded)

/-- What is encoded in a fragment. -/
def inFragment : List Char := [' ', '"', '<', '>', '\x60']

/-- What is encoded in a path. -/
def inPath : List Char := inFragment ++ ['#', '?', '\x7b', '\x7d']

/-- What is encoded in a user name or a password. -/
def inUserinfo : List Char := inPath ++ ['/', ':', ';', '=', '@', '[', '\\', ']', '^', '|']

/-- What is encoded in a query. -/
def inQuery : List Char := [' ', '"', '#', '<', '>']

/-- What is encoded in a query of a special scheme. -/
def inSpecialQuery : List Char := inQuery ++ ['\x27']

def hexValue? (c : Char) : Option Nat :=
  if c.isDigit then some (c.toNat - '0'.toNat)
  else
    let lower := c.toLower
    if 'a' ≤ lower ∧ lower ≤ 'f' then some (lower.toNat - 'a'.toNat + 10) else none

/-- The byte that two hexadecimal digits stand for. -/
def byteOfHex? (high low : Char) : Option UInt8 := do
  let high ← hexValue? high
  let low ← hexValue? low
  return UInt8.ofNat (16 * high + low)

/-- The bytes of a text, with every encoded byte put in its place. -/
def decode : List Char → List UInt8
  | '%' :: high :: low :: rest =>
    match byteOfHex? high low with
    | some byte => byte :: decode rest
    | none => String.utf8EncodeChar '%' ++ decode (high :: low :: rest)
  | c :: rest => String.utf8EncodeChar c ++ decode rest
  | [] => []
termination_by chars => chars.length

end Url

end GeoChain
