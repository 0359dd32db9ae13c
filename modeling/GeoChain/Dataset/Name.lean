import GeoChain.Text.Split
import GeoChain.Uuid

/-!
# Names of derived datasets

A dataset that a process makes is named after the datasets that it is made from and after the
process. The mapset of a stored dataset becomes part of the name, so that layers of one name in
different mapsets stay apart. Where literal arguments shape the result, a short key of them is part
of the name too.
-/

namespace GeoChain

namespace Dataset

/-- The name with an underscore for the first `@`. -/
def stemChars (chars : List Char) : List Char :=
  match Text.splitFirst? '@' chars with
  | some (layer, mapset) => layer ++ '_' :: mapset
  | none => chars

def stem (dataset : String) : String := String.ofList (stemChars dataset.toList)

/-- The name of what a process makes from one dataset. -/
def derived (dataset process : String) : String := stem dataset ++ "_" ++ process

/-- The name of what a process makes from several datasets. -/
def joined (datasets : List String) (process : String) : String :=
  match datasets with
  | [] => process
  | dataset :: rest => stem dataset ++ "_" ++ joined rest process

/-- Eight hexadecimal digits that stand for a literal. -/
def literalKey (literal : String) : String :=
  String.ofList ((Uuid.ofName Uuid.urlSpace literal).plain.take 8)

/-- The stem of a dataset, marked with the key of a literal. -/
def keyedStem (dataset literal : String) : String := stem dataset ++ "_" ++ literalKey literal

end Dataset

end GeoChain
