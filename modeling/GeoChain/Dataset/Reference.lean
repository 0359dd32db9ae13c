import GeoChain.Text.Split

/-!
# References to stored datasets

A reference names a dataset that the backend holds: its location, its mapset, its type and its
layer, with dots between them. The layer is everything after the third dot and may contain dots
itself; the other parts do not.
-/

namespace GeoChain

inductive Datatype where
  | raster
  | strds
  | vector
deriving DecidableEq, Repr

def Datatype.text : Datatype → String
  | .raster => "raster"
  | .strds => "strds"
  | .vector => "vector"

def Datatype.read? : String → Option Datatype
  | "raster" => some .raster
  | "strds" => some .strds
  | "vector" => some .vector
  | _ => none

structure Reference where
  location : String
  mapset : String
  datatype : Datatype
  layer : String
deriving DecidableEq, Repr

namespace Reference

/-- Why a text is no reference: fewer than four parts, an empty part, or an unknown type. -/
inductive Problem where
  | shape
  | datatype (found : String)
deriving DecidableEq, Repr

def Problem.message : Problem → String
  | .shape => "expected <location>.<mapset>.<datatype>.<layer>"
  | .datatype found => "unknown datatype '" ++ found ++ "', expected raster, strds or vector"

/-- The parts before the first three dots, and the rest. -/
def parts? (chars : List Char) : Option (List Char × List Char × List Char × List Char) := do
  let (location, rest) ← Text.splitFirst? '.' chars
  let (mapset, rest) ← Text.splitFirst? '.' rest
  let (datatype, layer) ← Text.splitFirst? '.' rest
  return (location, mapset, datatype, layer)

def read (text : String) : Except Problem Reference :=
  match parts? text.toList with
  | none => .error .shape
  | some (location, mapset, datatype, layer) =>
    if location.isEmpty || mapset.isEmpty || datatype.isEmpty || layer.isEmpty then .error .shape
    else match Datatype.read? (String.ofList datatype) with
      | none => .error (.datatype (String.ofList datatype))
      | some known =>
        .ok ⟨String.ofList location, String.ofList mapset, known, String.ofList layer⟩

def text (reference : Reference) : String :=
  reference.location ++ "." ++ reference.mapset ++ "." ++ reference.datatype.text ++ "." ++
    reference.layer

/-- The name of the dataset on the backend. -/
def dataset (reference : Reference) : String := reference.layer ++ "@" ++ reference.mapset

end Reference

end GeoChain
