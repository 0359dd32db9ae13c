import GeoChain.Compile.Error
import GeoChain.Graph.ProcessId
import GeoChain.Number.Layout
import GeoChain.Text.Blank

/-!
# The arguments of a process call

When a process is called, each of its arguments is a literal or a list of datasets that other
processes made. A literal `null` counts as an absent argument. Numbers may also be given as numeric
text. The main input of a process is called `imagery`; `data` may stand for it.
-/

namespace GeoChain

inductive Value where
  | literal (value : Json)
  | data (datasets : List String)
deriving DecidableEq

structure Arguments where
  process : ProcessId
  values : List (String × Value)
deriving DecidableEq

namespace Arguments

def get? (name : String) (arguments : Arguments) : Option Value :=
  Keyed.find? name arguments.values

def isData : Value → Bool
  | .data _ => true
  | .literal _ => false

def hasData (arguments : Arguments) : Bool :=
  arguments.values.any (fun entry => isData entry.2)

/-- A literal that is not `null`. -/
def literal? (name : String) (arguments : Arguments) : Option Json :=
  match arguments.get? name with
  | some (.literal .null) | none | some (.data _) => none
  | some (.literal value) => some value

/-- The datasets of a data argument. -/
def data? (name : String) (arguments : Arguments) : Option (List String) :=
  match arguments.get? name with
  | some (.data datasets) => some datasets
  | some (.literal _) | none => none

def missing (name : String) (arguments : Arguments) : CompileError :=
  .missingArgument arguments.process.text name

def failed (failure : Failure) (arguments : Arguments) : CompileError :=
  .failed arguments.process.text failure none

def optionalText (name : String) (arguments : Arguments) : Except CompileError (Option String) :=
  match arguments.get? name with
  | some (.literal (.string text)) => .ok (some text)
  | some (.literal .null) | none => .ok none
  | some _ => .error (arguments.failed (.notText name))

/-- The content of an argument that has to be there. -/
def require {α : Type} (name : String) (arguments : Arguments)
    (found : Except CompileError (Option α)) : Except CompileError α :=
  match found with
  | .ok (some value) => .ok value
  | .ok none => .error (arguments.missing name)
  | .error cause => .error cause

def requireText (name : String) (arguments : Arguments) : Except CompileError String :=
  arguments.require name (arguments.optionalText name)

/-- A number that is given as text, which may have blanks around it. -/
def numberOfText (name text : String) (arguments : Arguments) : Except CompileError Double :=
  match Numeral.read (Text.trimChars text.toList) with
  | .ok (.finite x) => .ok x
  | .ok .notFinite => .error (arguments.failed (.notFinite name))
  | .error problem =>
    .error ((arguments.failed (.notNumber name)).withSource (.numeral problem))

def optionalNumber (name : String) (arguments : Arguments) :
    Except CompileError (Option Double) :=
  match arguments.get? name with
  | some (.literal (.float x)) => .ok (some x)
  | some (.literal (.int n)) =>
    match Double.ofNat? (n < 0) n.natAbs with
    | some x => .ok (some x)
    | none => .error (arguments.failed (.notFinite name))
  | some (.literal (.string text)) => (arguments.numberOfText name text).map some
  | some (.literal .null) | none => .ok none
  | some _ => .error (arguments.failed (.notNumber name))

def requireNumber (name : String) (arguments : Arguments) : Except CompileError Double :=
  arguments.require name (arguments.optionalNumber name)

def requireData (name : String) (arguments : Arguments) : Except CompileError (List String) :=
  match arguments.get? name with
  | some (.data datasets) => .ok datasets
  | some (.literal .null) | none => .error (arguments.missing name)
  | some (.literal _) => .error (arguments.failed (.notNode name))

/-- The only dataset of a data argument. -/
def requireSingle (name : String) (arguments : Arguments) : Except CompileError String :=
  match arguments.requireData name with
  | .ok [dataset] => .ok dataset
  | .ok datasets => .error (arguments.failed (.notSingle name datasets.length))
  | .error cause => .error cause

/-- The name of the main input. -/
def mainName : String := "imagery"

/-- The name that may stand for the main input. -/
def fallbackName : String := "data"

/-- The datasets of the main input: those of `imagery` if it is data, else those of `data`. -/
def primaryData (arguments : Arguments) : Except CompileError (List String) :=
  match arguments.data? mainName with
  | some datasets => .ok datasets
  | none =>
    match arguments.data? fallbackName with
    | some datasets => .ok datasets
    | none => arguments.requireData mainName

/-- The only dataset of the main input. -/
def primarySingle (arguments : Arguments) : Except CompileError String :=
  if (arguments.data? mainName).isSome then arguments.requireSingle mainName
  else if (arguments.data? fallbackName).isSome then arguments.requireSingle fallbackName
  else arguments.requireSingle mainName

end Arguments

end GeoChain
