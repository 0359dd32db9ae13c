import GeoChain.Domain.Name
import GeoChain.Url.Address

/-!
# Hosts

The host of a special scheme is an address or a domain: its percent encoding is undone, and the name
is written in ASCII. Any other host is kept as it is, with control characters encoded. Both refuse
the characters that have a meaning in a URL.
-/

namespace GeoChain

namespace Url

/-- Characters that no host has. -/
def isBarredInHost (c : Char) : Bool :=
  ['\x00', '\t', '\n', '\r', ' ', '#', '/', ':', '<', '>', '?', '@', '[', '\\', ']', '^',
    '|'].contains c

/-- Characters that no domain has. -/
def isBarredInDomain (c : Char) : Bool :=
  isBarredInHost c || c ≤ ' ' || c = '%' || c = '\x7f'

/-- The domain that a text names, in ASCII. -/
def domain? (chars : List Char) : Option (List Char) := do
  let ascii ← Domain.toAscii? chars
  if ascii.isEmpty ∨ ascii.any isBarredInDomain then none else return ascii

/-- The text that encoded bytes stand for. -/
def decodedText? (chars : List Char) : Option (List Char) :=
  (String.fromUTF8? ⟨(decode chars).toArray⟩).map String.toList

/-- An address in brackets. -/
def bracketed? (chars : List Char) : Option (List Char) :=
  if chars.getLast? = some ']' then
    (eightPieces? (chars.drop 1).dropLast).map fun pieces => '[' :: eightPiecesText pieces ++ [']']
  else none

def specialHost? (chars : List Char) : Option (List Char) :=
  if chars.head? = some '[' then bracketed? chars
  else do
    let domain ← domain? (← decodedText? chars)
    if endsInNumber domain then (fourBytes? domain).map fourBytesText else return domain

/-- The host of a scheme that is not special; it may be empty. -/
def plainHost? (chars : List Char) : Option (List Char) :=
  if chars.head? = some '[' then bracketed? chars
  else if chars.any isBarredInHost then none
  else some (encode [] chars)

end Url

end GeoChain
