import GeoChain.Catalog.Basic
import GeoChain.Process.Bands
import GeoChain.Process.Region
import GeoChain.Process.Series
import GeoChain.Process.Source
import GeoChain.Process.Zones

/-!
# The built-in processes

The processes that every catalog can start from, in the order in which they are listed.
-/

namespace GeoChain

namespace Process

def builtins : List Entry := [
  ⟨GetData.description, GetData.emit⟩,
  ⟨FilterBbox.description, FilterBbox.emit⟩,
  ⟨FilterDaterange.description, FilterDaterange.emit⟩,
  ⟨MinTime.description, MinTime.emit⟩,
  ⟨Ndvi.description, Ndvi.emit⟩,
  ⟨RasterExporter.description, RasterExporter.emit⟩,
  ⟨ZonalStatistics.description, ZonalStatistics.emit⟩,
  ⟨UdfReduceTime.description, UdfReduceTime.emit⟩]

end Process

def Catalog.builtin : Catalog := Catalog.empty.registerAll Process.builtins

end GeoChain
