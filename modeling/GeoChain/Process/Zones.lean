import GeoChain.Catalog.Description
import GeoChain.Compile.Emitter
import GeoChain.Dataset.Name
import GeoChain.Process.Series

/-!
# Statistics inside zones

The zones come as a file of polygons. Four commands import the polygons, align the region to them,
mask the raster with them, and compute the statistics of a series.
-/

namespace GeoChain

namespace Process

namespace ZonalStatistics

def name : String := "zonal_statistics"

def description : Description :=
  (Description.new (.sanitize name)
    ("Computes univariate statistics of a space-time raster dataset inside " ++
      "the polygons of a vector file."))
    |>.withSummary "Calculates zonal statistics"
    |>.withRequired "imagery" seriesInput rasterCube
    |>.withRequired "regions"
      "URL of a vector file with the polygons to compute statistics for." uri
    |>.withReturned "Univariate statistics per map of the dataset."
      (.object [("type", .string "object")])

/-- The vector layer that the polygons are imported as. -/
def regions (stem : String) : String := stem ++ "_" ++ name ++ "_regions"

def emit : Emitter := fun arguments => do
  let input ← Emission.check arguments.primarySingle
  let url ← Emission.check (arguments.requireText "regions")
  let stem := Dataset.keyedStem input url
  let regions := regions stem
  let output := Dataset.derived stem name
  let importId ← Emission.nextStepId name
  let regionId ← Emission.nextStepId name
  let maskId ← Emission.nextStepId name
  let statisticsId ← Emission.nextStepId name
  return ⟨[output], [
    Command.new importId "v.import"
      |>.withImport "input" url ⟨.vector, url⟩
      |>.withOutput "output" regions,
    Command.new regionId "g.region" |>.withInput "vector" regions |>.withFlags "p",
    Command.new maskId "r.mask" |>.withInput "vector" regions,
    Command.new statisticsId "t.rast.univar"
      |>.withInput "input" input
      |>.withOutput "output" output]⟩

end ZonalStatistics

end Process

end GeoChain
