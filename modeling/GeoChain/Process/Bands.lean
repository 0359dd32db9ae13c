import GeoChain.Catalog.Description
import GeoChain.Compile.Emitter
import GeoChain.Dataset.Name

/-!
# Processes on bands

The vegetation index joins a red and a near-infrared series into one, and the exporter writes out
every layer that it is given. The exporter runs one command for each layer and passes the layers
through.
-/

namespace GeoChain

namespace Process

namespace Ndvi

def name : String := "ndvi"

def description : Description :=
  (Description.new (.sanitize name)
    ("Computes the normalized difference vegetation index from a red and a " ++
      "near-infrared space-time raster dataset."))
    |>.withSummary "Normalized difference vegetation index"
    |>.withRequired "red" "Space-time raster dataset of the red band." rasterCube
    |>.withRequired "nir" "Space-time raster dataset of the near-infrared band." rasterCube

def expression (output red nir : String) : String :=
  output ++ " = float((" ++ nir ++ " - " ++ red ++ ")/(" ++ nir ++ " + " ++ red ++ "))"

def emit : Emitter := fun arguments => do
  let red ← Emission.check (arguments.requireSingle "red")
  let nir ← Emission.check (arguments.requireSingle "nir")
  let id ← Emission.nextStepId name
  let output := Dataset.joined [red, nir] name
  return .single output (Command.new id "t.rast.mapcalc"
    |>.withInput "inputs" (red ++ "," ++ nir)
    |>.withInput "expression" (expression output red nir)
    |>.withInput "basename" name
    |>.withOutput "output" output)

end Ndvi

namespace RasterExporter

def name : String := "raster_exporter"

def format : String := "GTiff"

def description : Description :=
  (Description.new (.sanitize name) "Exports every input raster layer as a GeoTIFF file.")
    |>.withSummary "Export raster layers"
    |>.withRequired "imagery" "One or more openEO process objects that return raster layers."
      rasterCube

def command (id dataset : String) : Command :=
  Command.new id "exporter" |>.withExport "map" dataset ⟨.raster, format⟩

/-- One command for each of the datasets. -/
def commands : List String → Emission (List Command)
  | [] => return []
  | dataset :: rest => do
    let id ← Emission.nextStepId name
    let others ← commands rest
    return command id dataset :: others

def emit : Emitter := fun arguments => do
  let datasets ← Emission.check arguments.primaryData
  let commands ← commands datasets
  return ⟨datasets, commands⟩

end RasterExporter

end Process

end GeoChain
