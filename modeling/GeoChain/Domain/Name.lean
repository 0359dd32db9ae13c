import GeoChain.Domain.Label

/-!
# Names of domains

A name is read by mapping its characters, composing them, and cutting it into labels at the dots. It
is written in ASCII, each label in a form of its own. If letters of one label run to the left, the
order of the characters has to be clear in all labels.
-/

namespace GeoChain

namespace Domain

/-- The text of a name in its composed form, if its characters are allowed. -/
def mappedName? (chars : List Char) : Option (List Char) :=
  (chars.mapM mapped?).map fun parts => Text.composed parts.flatten

/-- Whether a label has letters or digits whose order is not from left to right. -/
def needsOrder (label : List Char) : Bool :=
  label.any fun c => (Text.Direction.ofChar c).needsOrder

def haveOrder (labels : List (List Char)) : Bool := !labels.any needsOrder || labels.all hasOrder

/-- The labels of a name. -/
def labels? (chars : List Char) : Option (List (List Char)) := do
  let labels ← (Text.split '.' (← mappedName? chars)).mapM label?
  if haveOrder labels then return labels else none

/-- The form of a name in ASCII. -/
def toAscii? (chars : List Char) : Option (List Char) :=
  (labels? chars).map fun labels => ['.'].intercalate (labels.map asciiLabel)

end Domain

end GeoChain
