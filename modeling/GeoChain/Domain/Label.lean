import GeoChain.Domain.Mapping
import GeoChain.Domain.Punycode
import GeoChain.Text.Composition
import GeoChain.Text.Direction
import GeoChain.Text.Joining

/-!
# Labels

The parts of a domain name between its dots are labels. A label outside ASCII is written in Punycode
behind `xn--`, and a label that starts so is read back. A label may not start with a mark; the marks
that join or part letters stand only where they change how letters are written; and in a name with
letters that run to the left, the directions within each label have to leave no doubt about the
order of its characters.
-/

namespace GeoChain

namespace Domain

open Text (Direction)

/-- What stands in front of a label in Punycode. -/
def codeLead : List Char := ['x', 'n', '-', '-']

/-- The most characters of a label outside ASCII. -/
def longestLabel : Nat := 1000

/-- The most characters of a Punycode text that is read. -/
def longestCode : Nat := 2000

/-! ## Joiners -/

def isNonjoiner (c : Char) : Bool := c.toNat = 0x200c

def isJoiner (c : Char) : Bool := c.toNat = 0x200d

/-- Whether the nearest character that letters do not join across is of a kind. -/
def reaches (kind : Char → Bool) (chars : List Char) : Bool :=
  (chars.dropWhile Text.isJoinedAcross).head?.any kind

/-- Whether a joiner or a nonjoiner may stand behind some characters, the nearest of which comes
first, and before others. Both may stand after a virama; a nonjoiner also parts letters that would
join. -/
def mayStand (c : Char) (before after : List Char) : Bool :=
  before.head?.any Text.isVirama ||
    (isNonjoiner c && reaches Text.joinsFollowing before && reaches Text.joinsPrevious after)

/-- Whether every joiner may stand where it does; the characters before come the nearest first. -/
def joinersMayStand (before : List Char) : List Char → Bool
  | [] => true
  | c :: rest =>
    (!(isNonjoiner c || isJoiner c) || mayStand c before rest) && joinersMayStand (c :: before) rest

/-! ## Directions -/

/-- The directions of a label without the marks at its end. -/
def withoutLastMarks (directions : List Direction) : List Direction :=
  (directions.reverse.dropWhile (· = .mark)).reverse

/-- A label that starts with a letter to the right holds none to the left and ends in a letter or a
European digit. -/
def isRightward (directions : List Direction) : Bool :=
  directions.all (fun direction => !direction.needsOrder) &&
    directions.getLast?.any fun last => last = .rightward || last = .europeanDigit

/-- A label that starts with a letter to the left holds none to the right and digits of one kind,
and ends in a letter or a digit. -/
def isLeftward (directions : List Direction) : Bool :=
  !directions.contains .rightward &&
    !(directions.contains .europeanDigit && directions.contains .arabicDigit) &&
    directions.getLast?.any fun last =>
      last = .leftward || last = .europeanDigit || last = .arabicDigit

/-- Whether the directions in a label leave no doubt about its order. -/
def hasOrder (label : List Char) : Bool :=
  let directions := withoutLastMarks (label.map Direction.ofChar)
  match label.head?.map Direction.ofChar with
  | none => true
  | some .rightward => isRightward directions
  | some .leftward => isLeftward directions
  | some _ => false

/-! ## Reading and writing labels -/

/-- The text that a label in Punycode stands for. It is outside ASCII, in its composed form, and of
characters that mapping leaves as they are. -/
def decodedLabel? (code : List Char) : Option (List Char) :=
  if longestCode < code.length ∨ ¬ code.all Punycode.isBasic then none
  else
    (Punycode.decode? code).filter fun label =>
      !label.all Punycode.isBasic && label.all isKept && Text.composed label = label

/-- Whether a label is well formed on its own. -/
def isLabel (label : List Char) : Bool :=
  !label.head?.any Text.isMark && joinersMayStand [] label &&
    (label.all Punycode.isBasic || label.length ≤ longestLabel)

/-- The text of a label whose characters are mapped and composed. -/
def label? (chars : List Char) : Option (List Char) :=
  (if chars.take 4 = codeLead then decodedLabel? (chars.drop 4) else some chars).filter isLabel

/-- The form of a label in ASCII. -/
def asciiLabel (label : List Char) : List Char :=
  if label.all Punycode.isBasic then label else codeLead ++ Punycode.encode label

end Domain

end GeoChain
