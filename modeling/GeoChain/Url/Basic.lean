import GeoChain.Url.Percent

/-!
# URLs

A URL has a scheme, perhaps an authority with a host, a path, and perhaps a query and a fragment.
The path is a list of segments, each written behind a slash, or for some schemes one text as a
whole; a URL of that kind cannot be a base for relative references. All parts are kept in the form
in which they are written.
-/

namespace GeoChain

namespace Url

inductive Path where
  | segments (parts : List (List Char))
  | whole (text : List Char)
deriving DecidableEq, Repr

end Url

structure Url where
  scheme : String
  username : List Char
  password : List Char
  host : Option (List Char)
  port : Option Nat
  path : Url.Path
  query : Option (List Char)
  fragment : Option (List Char)
deriving DecidableEq, Repr

namespace Url

/-- The port that a special scheme means if none is given. -/
def defaultPort? : String → Option Nat
  | "http" | "ws" => some 80
  | "https" | "wss" => some 443
  | "ftp" => some 21
  | _ => none

def isSpecial (scheme : String) : Bool := scheme = "file" || (defaultPort? scheme).isSome

/-- The segments of a path, each behind a slash. -/
def segmentsChars (parts : List (List Char)) : List Char := parts.flatMap ('/' :: ·)

def Path.chars : Path → List Char
  | segments parts => segmentsChars parts
  | whole text => text

/-- User name and password, if there is one of them. -/
def userinfoChars (url : Url) : List Char :=
  if url.username.isEmpty && url.password.isEmpty then []
  else url.username ++ (if url.password.isEmpty then [] else ':' :: url.password) ++ ['@']

def portChars (url : Url) : List Char :=
  match url.port with
  | some port => ':' :: Nat.toDigits 10 port
  | none => []

/-- What stands between the scheme and the path. A path without a host that would look like a host
is kept apart by a dot. -/
def authorityChars (url : Url) : List Char :=
  match url.host with
  | some host => '/' :: '/' :: url.userinfoChars ++ host ++ url.portChars
  | none =>
    match url.path with
    | .segments ([] :: _ :: _) => ['/', '.']
    | _ => []

def marked (mark : Char) : Option (List Char) → List Char
  | some chars => mark :: chars
  | none => []

def chars (url : Url) : List Char :=
  url.scheme.toList ++ ':' :: url.authorityChars ++ url.path.chars ++ marked '?' url.query ++
    marked '#' url.fragment

def text (url : Url) : String := String.ofList url.chars

def canBeBase (url : Url) : Bool :=
  match url.path with
  | .segments _ => true
  | .whole _ => false

def isDriveLetter : List Char → Bool
  | [letter, mark] => letter.isAlpha && (mark = ':' || mark = '|')
  | _ => false

/-- A drive letter in the form in which a path starts with it. -/
def isPlainDriveLetter : List Char → Bool
  | [letter, mark] => letter.isAlpha && mark = ':'
  | _ => false

/-- A drive letter with a colon. -/
def driveSegment (segment : List Char) : List Char := segment.take 1 ++ [':']

/-- The segments with a colon behind the drive letter in front. -/
def withPlainDrive : List (List Char) → List (List Char)
  | segment :: rest =>
    (if isDriveLetter segment then driveSegment segment else segment) :: rest
  | [] => []

/-- The path with a slash at its end; that of a file then starts with a plain drive letter. -/
def Path.closed (scheme : String) : Path → Path
  | segments parts =>
    if parts.getLast? = some [] then segments parts
    else segments ((if scheme = "file" then withPlainDrive parts else parts) ++ [[]])
  | whole text =>
    if text.isEmpty then whole ['%', '2', 'F']
    else if text.getLast? = some '/' then whole text
    else whole (text ++ ['/'])

/-- The URL with a slash at the end of its path, so that relative references go below it. -/
def directory (url : Url) : Url := { url with path := url.path.closed url.scheme }

end Url

end GeoChain
