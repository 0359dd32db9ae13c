import GeoChain.Catalog.Description
import GeoChain.Compile.Emitter

/-!
# Cutting out a region

The region is state of the backend and not of a dataset, so the datasets pass through and one
command sets the edges of the region and perhaps its resolution.
-/

namespace GeoChain

namespace Process

namespace FilterBbox

def name : String := "filter_bbox"

/-- The edges of a box, and the edge of the region that each one sets. -/
def edges : List (String × String) := [("top", "n"), ("bottom", "s"), ("right", "e"), ("left", "w")]

def resolutions : List (String × String) := [("ewres", "ewres"), ("nsres", "nsres")]

def number : Json := .object [("type", .string "number")]

def description : Description :=
  let start :=
    (Description.new (.sanitize name)
      ("Drops observations outside of a bounding box by setting the " ++
        "computational region."))
      |>.withSummary "Spatial filter using a bounding box"
      |>.withRequired "imagery"
        "Any openEO process object that returns raster datasets or space-time raster datasets."
        rasterCube
  let edged := edges.foldl (fun described (edge, _) =>
    described.withRequired edge (edge ++ " boundary of the bounding box") number) start
  resolutions.foldl (fun described (resolution, _) =>
    described.withOptional resolution ("Resolution of the region (" ++ resolution ++ ")") number)
    edged

def edgeInputs (arguments : Arguments) :
    List (String × String) → Except CompileError (List Input)
  | [] => .ok []
  | (edge, param) :: rest => do
    let x ← arguments.requireNumber edge
    let others ← edgeInputs arguments rest
    return ⟨param, x.plainText, none⟩ :: others

def resolutionInputs (arguments : Arguments) :
    List (String × String) → Except CompileError (List Input)
  | [] => .ok []
  | (resolution, param) :: rest => do
    let x? ← arguments.optionalNumber resolution
    let others ← resolutionInputs arguments rest
    match x? with
    | some x => return ⟨param, x.plainText, none⟩ :: others
    | none => return others

def inputs (arguments : Arguments) : Except CompileError (List Input) := do
  let edged ← edgeInputs arguments edges
  let resolved ← resolutionInputs arguments resolutions
  return edged ++ resolved

def emit : Emitter := fun arguments => do
  let datasets ← Emission.check arguments.primaryData
  let id ← Emission.nextStepId name
  let inputs ← Emission.check (inputs arguments)
  return ⟨datasets, [⟨id, "g.region", inputs, [], some "p"⟩]⟩

end FilterBbox

end Process

end GeoChain
