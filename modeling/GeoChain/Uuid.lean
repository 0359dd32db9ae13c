import GeoChain.Digest.Sha1

/-!
# Universally unique identifiers

An identifier of 128 bits. It is written as 32 lower-case hexadecimal digits, plain or in five
groups with hyphens. Four spellings are read: plain, hyphenated, hyphenated in braces, and
hyphenated after `urn:uuid:`; digits and that lead may be in any case.
-/

namespace GeoChain

structure Uuid where
  bits : BitVec 128
deriving DecidableEq

namespace Uuid

def hexDigits : (count : Nat) → (value : Nat) → List Char
  | 0, _ => []
  | count + 1, value => hexDigits count (value / 16) ++ [Nat.digitChar (value % 16)]

def plain (id : Uuid) : List Char := hexDigits 32 id.bits.toNat

/-- The sizes of the groups between hyphens. -/
def groups : List Nat := [8, 4, 4, 4, 12]

def joinGroups : List Nat → List Char → List Char
  | [], _ => []
  | [size], digits => digits.take size
  | size :: rest, digits => digits.take size ++ '-' :: joinGroups rest (digits.drop size)

def hyphenated (id : Uuid) : List Char := joinGroups groups id.plain

def plainText (id : Uuid) : String := String.ofList id.plain

def text (id : Uuid) : String := String.ofList id.hyphenated

def hexValue? (c : Char) : Option Nat :=
  if c.isDigit then some (c.toNat - '0'.toNat)
  else
    let lower := c.toLower
    if 'a' ≤ lower ∧ lower ≤ 'f' then some (lower.toNat - 'a'.toNat + 10) else none

def hexNumber? (digits : List Char) : Option Nat :=
  digits.foldlM (fun value c => (hexValue? c).map (fun digit => 16 * value + digit)) 0

def ofPlain? (chars : List Char) : Option Uuid :=
  if chars.length = 32 then (hexNumber? chars).map fun value => ⟨BitVec.ofNat 128 value⟩ else none

/-- Takes the hyphens out, which stand exactly between the groups. -/
def splitGroups? : List Nat → List Char → Option (List Char)
  | [], [] => some []
  | [], _ :: _ => none
  | [size], chars => if chars.length = size ∧ ¬ chars.contains '-' then some chars else none
  | size :: rest, chars =>
    match chars.drop size with
    | '-' :: tail =>
      let lead := chars.take size
      if lead.contains '-' then none else (splitGroups? rest tail).map (lead ++ ·)
    | _ => none

def ofHyphenated? (chars : List Char) : Option Uuid := (splitGroups? groups chars).bind ofPlain?

def urnLead : List Char := "urn:uuid:".toList

def ofChars? (chars : List Char) : Option Uuid :=
  if chars.length = 32 then ofPlain? chars
  else if chars.length = 36 then ofHyphenated? chars
  else if chars.length = 38 then
    if chars.head? = some '\x7b' ∧ chars.getLast? = some '\x7d' then
      ofHyphenated? (chars.drop 1).dropLast
    else none
  else if (chars.take 9).map Char.toLower = urnLead then ofHyphenated? (chars.drop 9)
  else none

def read? (text : String) : Option Uuid := ofChars? text.toList

/-- The identifier with the version and the variant put in. -/
def stamped (version : Nat) (bits : BitVec 128) : Uuid :=
  let cleared := bits &&& ~~~(0xf000c000000000000000#128)
  ⟨cleared ||| (BitVec.ofNat 128 version <<< 76) ||| 0x8000000000000000#128⟩

def version (id : Uuid) : Nat := (id.bits >>> 76).toNat % 16

def ofBytes (bytes : List UInt8) : BitVec 128 :=
  BitVec.ofNat 128 (bytes.foldl (fun value byte => 256 * value + byte.toNat) 0)

def utf8 (text : String) : List UInt8 := text.toUTF8.toList

/-- The identifier of a name inside the space of another identifier. -/
def ofName (space : Uuid) (name : String) : Uuid :=
  let bytes := Sha1.bigEndian 16 space.bits.toNat ++ utf8 name
  stamped 5 (ofBytes ((Sha1.digest bytes).take 16))

/-- The space of names that are URLs. -/
def urlSpace : Uuid := ⟨0x6ba7b8119dad11d180b400c04fd430c8#128⟩

/-- The identifiers that a random seed gives rise to, one for every number. -/
def random (seed : List UInt8) (index : Nat) : Uuid :=
  stamped 4 (ofBytes ((Sha1.digest (seed ++ utf8 (toString index))).take 16))

end Uuid

end GeoChain
