/-!
# Splitting at a mark

A text is cut at the first occurrence of a character or at all of them. The marks belong to no
part; joining the parts with the mark between them gives the text back.
-/

namespace GeoChain

namespace Text

/-- What stands before and after the first mark, if there is one. -/
def splitFirst? (mark : Char) : List Char → Option (List Char × List Char)
  | [] => none
  | c :: rest =>
    if c = mark then some ([], rest)
    else (splitFirst? mark rest).map fun (before, after) => (c :: before, after)

/-- What stands before a mark, and what stands after it if it is there. -/
def cutAt (mark : Char) (chars : List Char) : List Char × Option (List Char) :=
  match splitFirst? mark chars with
  | some (before, after) => (before, some after)
  | none => (chars, none)

/-- The parts between the marks; there is one more than there are marks. -/
def split (mark : Char) : List Char → List (List Char)
  | [] => [[]]
  | c :: rest =>
    if c = mark then [] :: split mark rest
    else match split mark rest with
      | part :: parts => (c :: part) :: parts
      | [] => [[c]]

/-- Whether a character occurs in a text. -/
def has (mark : Char) (text : String) : Bool := text.toList.contains mark

end Text

end GeoChain
