import GeoChain.Calendar.Stamp
import GeoChain.Catalog.Description
import GeoChain.Compile.Emitter
import GeoChain.Dataset.Name

/-!
# Processes on a series

Three processes that make one dataset from one series: the maps of a range of time, the minimum over
time, and the result of a function that the user gives. Where literals shape the result, their key
is part of its name.
-/

namespace GeoChain

namespace Process

def seriesInput : String :=
  "Any openEO process object that returns a space-time raster dataset."

def uri : Json := .object [("format", .string "uri"), ("type", .string "string")]

namespace FilterDaterange

def name : String := "filter_daterange"

def date : Json := .object [("format", .string "date-time"), ("type", .string "string")]

def description : Description :=
  (Description.new (.sanitize name)
    ("Drops observations from a space-time raster dataset that are outside " ++
      "of the given time range."))
    |>.withSummary "Temporal filter based on a date range"
    |>.withRequired "imagery" seriesInput rasterCube
    |>.withRequired "from" "Start date/time, inclusive." date
    |>.withRequired "to" "End date/time, inclusive." date

/-- The trimmed text of a bound, which has to be a date or a time. -/
def bound (argument : String) (arguments : Arguments) : Except CompileError String := do
  let text ← arguments.requireText argument
  let chars := Text.trimChars text.toList
  if Calendar.Stamp.isBound chars then return String.ofList chars
  else throw (.failed name (.notDate argument) none)

def condition (start stop : String) : String :=
  "start_time >= '" ++ start ++ "' AND end_time <= '" ++ stop ++ "'"

/-- The literal that the key of the result stands for. -/
def range (start stop : String) : String := start ++ "/" ++ stop

def emit : Emitter := fun arguments => do
  let input ← Emission.check arguments.primarySingle
  let start ← Emission.check (bound "from" arguments)
  let stop ← Emission.check (bound "to" arguments)
  let id ← Emission.nextStepId name
  let output := Dataset.derived (Dataset.keyedStem input (range start stop)) name
  return .single output (Command.new id "t.rast.extract"
    |>.withInput "input" input
    |>.withInput "where" (condition start stop)
    |>.withOutput "output" output)

end FilterDaterange

namespace MinTime

def name : String := "min_time"

def description : Description :=
  (Description.new (.sanitize name)
    "Finds the minimum value of time series for all bands of the input dataset.")
    |>.withSummary "Calculates minimum values of time series"
    |>.withRequired "imagery" seriesInput rasterCube

def emit : Emitter := fun arguments => do
  let input ← Emission.check arguments.primarySingle
  let id ← Emission.nextStepId name
  let output := Dataset.derived input name
  return .single output (Command.new id "t.rast.series"
    |>.withInput "input" input
    |>.withInput "method" "minimum"
    |>.withOutput "output" output)

end MinTime

namespace UdfReduceTime

def name : String := "udf_reduce_time"

def description : Description :=
  (Description.new (.sanitize name)
    ("Applies a Python user-defined function to the time series of every " ++
      "pixel of a space-time raster dataset."))
    |>.withSummary "Reduce the time dimension with a UDF"
    |>.withRequired "imagery" seriesInput rasterCube
    |>.withRequired "python_file_url" "URL of the Python file implementing the function." uri

def emit : Emitter := fun arguments => do
  let input ← Emission.check arguments.primarySingle
  let url ← Emission.check (arguments.requireText "python_file_url")
  let id ← Emission.nextStepId name
  let output := Dataset.derived (Dataset.keyedStem input url) name
  return .single output (Command.new id "t.rast.aggr_func"
    |>.withInput "input" input
    |>.withImport "pyfile" url ⟨.file, url⟩
    |>.withOutput "output" output)

end UdfReduceTime

end Process

end GeoChain
