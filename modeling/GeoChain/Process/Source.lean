import GeoChain.Catalog.Description
import GeoChain.Compile.Emitter

/-!
# Loading data

The one process that reads data from the backend. It points the region at a layer, or asks about a
series, and notes the location that the data live in.
-/

namespace GeoChain

namespace Process

namespace GetData

def name : String := "get_data"

def description : Description :=
  (Description.new (.sanitize name)
    ("Loads a raster layer, a space-time raster dataset or a vector layer " ++
      "and sets the computational region to it."))
    |>.withSummary "Load a dataset"
    |>.withRequired "data_id"
      "Identifier of the dataset, <location>.<mapset>.<datatype>.<layer>."
      (.object [("type", .string "string")])

/-- The command that loads a dataset of a type. -/
def command (id dataset : String) : Datatype → Command
  | .raster => Command.new id "g.region" |>.withInput "raster" dataset |>.withFlags "p"
  | .vector => Command.new id "g.region" |>.withInput "vector" dataset |>.withFlags "p"
  | .strds => Command.new id "t.info" |>.withInput "input" dataset

def reference (text : String) : Except CompileError Reference :=
  match Reference.read text with
  | .ok reference => .ok reference
  | .error problem =>
    .error (.failed name (.invalidReference text) (some (.reference problem)))

def emit : Emitter := fun arguments => do
  let text ← Emission.check (arguments.requireText "data_id")
  let reference ← Emission.check (reference text)
  let id ← Emission.nextStepId name
  Emission.addLocation reference.location
  return .single reference.dataset (command id reference.dataset reference.datatype)

end GetData

end Process

end GeoChain
