import GeoChain.CommandLine.Given

/-!
# Reading the command line

The options of the program come first, then the name of the action, then what belongs to the action.
An option has its value behind an equals sign or as the next argument, which then may not look like
an option itself. A value that is an argument of its own is looked at when the next option is met or
at the end; until then a request for help comes before a complaint about it.
-/

namespace GeoChain

namespace CommandLine

/-- Why there is nothing to run: help or the version is asked for, or the arguments are wrong. -/
inductive Refusal where
  | help
  | version
  | usage
deriving DecidableEq, Repr

/-- The answer to the question for the version. -/
def versionText : String := "openeo-actinia 0.1.0"

/-- An argument, by its looks. -/
inductive Token where
  /-- Two hyphens, which end the options. -/
  | rest
  | long (name : String) (value : Option String)
  /-- Letters behind one hyphen; the first of them decides. -/
  | short (letter : Char)
  | plain (text : String)
deriving DecidableEq, Repr

namespace Token

def ofLong (chars : List Char) : Token :=
  match Text.splitFirst? '=' chars with
  | some (name, value) => long (String.ofList name) (some (String.ofList value))
  | none => long (String.ofList chars) none

def ofText (text : String) : Token :=
  match text.toList with
  | ['-', '-'] => rest
  | '-' :: '-' :: chars => ofLong chars
  | '-' :: letter :: _ => short letter
  | _ => plain text

/-- An argument that can be the value of the option before it. -/
def plain? : Token → Option String
  | plain text => some text
  | _ => none

end Token

def orUsage {α : Type} : Option α → Except Refusal α
  | some value => .ok value
  | none => .error .usage

/-! ## What belongs to an action -/

/-- Nothing belongs to the listing of processes. -/
def readProcesses : List String → Except Refusal Action
  | [] => .ok .processes
  | first :: others =>
    match Token.ofText first with
    | .rest => if others.isEmpty then .ok .processes else .error .usage
    | .long "help" none | .short 'h' => .error .help
    | _ => .error .usage

/-- The path of a graph that was given, which may not be empty. -/
def settledPath (path : Option String) : Except Refusal Unit :=
  match path with
  | some "" => .error .usage
  | _ => .ok ()

/-- The end of the arguments of a compilation. -/
def compileAction (path : Option String) (submit : Bool) : Except Refusal Action := do
  settledPath path
  match path with
  | some path => return .compile path submit
  | none => throw .usage

/-- The arguments of a compilation behind the end of its options. -/
def readPaths (path : Option String) (submit : Bool) : List String → Except Refusal Action
  | [] => compileAction path submit
  | first :: others =>
    match path with
    | some _ => .error .usage
    | none => readPaths (some first) submit others

def readCompile (path : Option String) (submit : Bool) : List String → Except Refusal Action
  | [] => compileAction path submit
  | first :: others =>
    match Token.ofText first with
    | .rest => readPaths path submit others
    | .long "help" none | .short 'h' => do
      settledPath path
      throw .help
    | .long "submit" none => do
      settledPath path
      if submit then throw .usage
      readCompile path true others
    | .long _ _ | .short _ => .error .usage
    | .plain text =>
      match path with
      | some _ => .error .usage
      | none => readCompile (some text) submit others

def actionNames : List String := ["processes", "compile", "help"]

/-- Help about the program or about one action. -/
def readHelp : List String → Refusal
  | [] => .help
  | [name] => if actionNames.contains name then .help else .usage
  | _ => .usage

/-- The action of that name with what belongs to it; no other name means an action. -/
def readAction (name : String) (rest : List String) : Except Refusal Action :=
  match name with
  | "processes" => readProcesses rest
  | "compile" => readCompile none false rest
  | "help" => .error (readHelp rest)
  | _ => .error .usage

/-! ## The options of the program -/

/-- What was read so far: the settled options, and one whose value is still to be looked at. -/
structure Reading where
  given : Given
  pending : Option (ValueOption × String)

namespace Reading

def start : Reading := ⟨.nothing, none⟩

/-- The options, the pending one among them. -/
def settled (reading : Reading) : Except Refusal Given :=
  match reading.pending with
  | none => .ok reading.given
  | some (option, text) => orUsage (reading.given.set? option text)

end Reading

def valueOption? (name : String) : Option ValueOption :=
  ValueOption.all.find? (fun option => option.name = name)

def switch? (name : String) : Option Switch := Switch.all.find? (fun switch => switch.name = name)

/-- An option with its value attached. -/
def attached (name value : String) (reading : Reading) : Except Refusal Reading := do
  let option ← orUsage (valueOption? name)
  let given ← reading.settled
  return ⟨← orUsage (given.set? option value), none⟩

def switched (switch : Switch) (reading : Reading) : Except Refusal Reading := do
  let given ← reading.settled
  return ⟨← orUsage (given.setSwitch? switch (some true)), none⟩

/-- An option whose value is the next argument. -/
def awaiting (option : ValueOption) (next : String) (reading : Reading) :
    Except Refusal Reading := do
  let given ← reading.settled
  let text ← orUsage (Token.ofText next).plain?
  return ⟨given, some (option, text)⟩

/-- Help or the version, unless something before it is wrong. -/
def asked {α : Type} (refusal : Refusal) (reading : Reading) : Except Refusal α := do
  let _ ← reading.settled
  throw refusal

def readProgram (reading : Reading) : List String → Except Refusal (Given × Action)
  | [] => .error .usage
  | first :: others =>
    match Token.ofText first with
    | .plain name => do
      let action ← readAction name others
      return (← reading.settled, action)
    | .long "help" none | .short 'h' => asked .help reading
    | .long "version" none | .short 'V' => asked .version reading
    | .long name (some value) => do
      let reading ← attached name value reading
      readProgram reading others
    | .long name none =>
      match switch? name, valueOption? name, others with
      | some switch, _, others => do
        let reading ← switched switch reading
        readProgram reading others
      | none, some option, next :: others => do
        let reading ← awaiting option next reading
        readProgram reading others
      | none, _, _ => .error .usage
    | .rest | .short _ => .error .usage

/-- Reads the arguments that follow the name of the program. -/
def Options.read (environment : Given.Environment) (arguments : List String) :
    Except Refusal Options := do
  let (given, action) ← readProgram .start arguments
  let given ← orUsage (given.withEnvironment? environment)
  return given.options action

end CommandLine

end GeoChain
