import GeoChain.CommandLine.Options

/-!
# What a user gives

Every option of the program may be given once, on the command line or else by a variable of the
environment; what is not given has its standard value. A number is written in digits, perhaps behind
a plus sign, and has 64 bits.
-/

namespace GeoChain

namespace CommandLine

/-- An option that takes a value. -/
inductive ValueOption where
  | maxDepth
  | url
  | user
  | password
  | timeout
  | userAgent
deriving DecidableEq, Repr

namespace ValueOption

def name : ValueOption → String
  | maxDepth => "max-depth"
  | url => "actinia-url"
  | user => "actinia-user"
  | password => "actinia-password"
  | timeout => "http-timeout"
  | userAgent => "http-user-agent"

/-- The variable that gives the option if the command line does not. -/
def environmentName : ValueOption → String
  | maxDepth => "OPENEO_MAX_DEPTH"
  | url => "ACTINIA_URL"
  | user => "ACTINIA_USER"
  | password => "ACTINIA_PASSWORD"
  | timeout => "HTTP_TIMEOUT"
  | userAgent => "HTTP_USER_AGENT"

def all : List ValueOption := [maxDepth, url, user, password, timeout, userAgent]

end ValueOption

/-- An option that is there or not. -/
inductive Switch where
  | sequentialIds
  | discover
deriving DecidableEq, Repr

namespace Switch

def name : Switch → String
  | sequentialIds => "sequential-ids"
  | discover => "discover"

/-- The variable that gives the option if the command line does not. -/
def environmentName : Switch → String
  | sequentialIds => "OPENEO_SEQUENTIAL_IDS"
  | discover => "OPENEO_DISCOVER_MODULES"

def all : List Switch := [sequentialIds, discover]

end Switch

structure Given where
  maxDepth : Option Nat
  url : Option Url
  user : Option String
  password : Option String
  timeout : Option Nat
  userAgent : Option String
  sequentialIds : Option Bool
  discover : Option Bool

namespace Given

def nothing : Given := ⟨none, none, none, none, none, none, none, none⟩

def readNumber? (text : String) : Option Nat :=
  let digits := match text.toList with
    | '+' :: digits => digits
    | digits => digits
  if digits.isEmpty ∨ ¬ digits.all Char.isDigit then none
  else
    let number := Numeral.digitsValue digits
    if number < Nat.pow 2 64 then some number else none

def readSwitch? : String → Option Bool
  | "true" => some true
  | "false" => some false
  | _ => none

/-- A value where there is none yet. -/
def once? {α : Type} (held value : Option α) : Option (Option α) :=
  match held, value with
  | none, some value => some (some value)
  | _, _ => none

/-- Gives an option the value that a text stands for, unless it has one or the text is no value. -/
def set? (option : ValueOption) (text : String) (given : Given) : Option Given :=
  match option with
  | .maxDepth => do return { given with maxDepth := ← once? given.maxDepth (readNumber? text) }
  | .url => do return { given with url := ← once? given.url (Url.read? text) }
  | .user => do return { given with user := ← once? given.user (some text) }
  | .password => do return { given with password := ← once? given.password (some text) }
  | .timeout => do return { given with timeout := ← once? given.timeout (readNumber? text) }
  | .userAgent => do return { given with userAgent := ← once? given.userAgent (some text) }

def setSwitch? (switch : Switch) (value : Option Bool) (given : Given) : Option Given :=
  match switch with
  | .sequentialIds => do
    return { given with sequentialIds := ← once? given.sequentialIds value }
  | .discover => do return { given with discover := ← once? given.discover value }

def has (option : ValueOption) (given : Given) : Bool :=
  match option with
  | .maxDepth => given.maxDepth.isSome
  | .url => given.url.isSome
  | .user => given.user.isSome
  | .password => given.password.isSome
  | .timeout => given.timeout.isSome
  | .userAgent => given.userAgent.isSome

def hasSwitch (switch : Switch) (given : Given) : Bool :=
  match switch with
  | .sequentialIds => given.sequentialIds.isSome
  | .discover => given.discover.isSome

/-- The values of the variables that are set. -/
abbrev Environment := String → Option String

def fill? (environment : Environment) (given : Given) (option : ValueOption) : Option Given :=
  if given.has option then some given
  else
    match environment option.environmentName with
    | some text => given.set? option text
    | none => some given

def fillSwitch? (environment : Environment) (given : Given) (switch : Switch) : Option Given :=
  if given.hasSwitch switch then some given
  else
    match environment switch.environmentName with
    | some text => given.setSwitch? switch (readSwitch? text)
    | none => some given

/-- Adds what the environment gives; a variable whose value cannot be read is refused. -/
def withEnvironment? (environment : Environment) (given : Given) : Option Given := do
  let given ← ValueOption.all.foldlM (fill? environment) given
  Switch.all.foldlM (fillSwitch? environment) given

def compiler (given : Given) : CompilerOptions where
  maxDepth := given.maxDepth.getD CompilerOptions.standard.maxDepth
  sequentialIds := given.sequentialIds.getD false
  discover := given.discover.getD false

def settings (given : Given) : Settings where
  url := given.url.getD Settings.standardUrl
  user := given.user.getD Settings.standardCredential
  password := given.password.getD Settings.standardCredential
  timeout := given.timeout.getD Settings.standardTimeout
  userAgent := given.userAgent

def options (action : Action) (given : Given) : Options :=
  ⟨action, given.compiler, given.settings⟩

end Given

end CommandLine

end GeoChain
