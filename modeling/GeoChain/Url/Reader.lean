import GeoChain.Url.Basic
import GeoChain.Url.Host

/-!
# Reading URLs

A reference is read alone or relative to a base. Blanks and controls at its ends and tabs and line
ends anywhere are ignored. In front of a fragment and a query stands a scheme, an authority and a
path, of which a relative reference may lack the first ones. A backslash counts as a slash in
special schemes. Dot segments are resolved while a path is built; a segment that starts with a drive
letter is not taken away. URLs of files have rules of their own for hosts and drive letters.
-/

namespace GeoChain

namespace Url

/-! ## Cutting a reference up -/

def isEdge (c : Char) : Bool := c ≤ ' '

def isIgnored (c : Char) : Bool := c = '\t' || c = '\n' || c = '\r'

/-- The reference without what is ignored in it. -/
def cleaned (chars : List Char) : List Char :=
  ((chars.dropWhile isEdge).reverse.dropWhile isEdge).reverse.filter (fun c => !isIgnored c)

/-- A reference cut at its fragment and at its query. -/
structure Cut where
  front : List Char
  query : Option (List Char)
  fragment : Option (List Char)

def cut (chars : List Char) : Cut :=
  let (rest, fragment) := Text.cutAt '#' chars
  let (front, query) := Text.cutAt '?' rest
  ⟨front, query, fragment⟩

def isSchemeChar (c : Char) : Bool := c.isAlphanum || c = '+' || c = '-' || c = '.'

/-- The scheme of a reference in small letters, and what follows its colon. -/
def scheme? (chars : List Char) : Option (String × List Char) :=
  match Text.splitFirst? ':' chars with
  | some (lead, rest) =>
    if lead.head?.any Char.isAlpha ∧ lead.all isSchemeChar then
      some (String.ofList (lead.map Char.toLower), rest)
    else none
  | none => none

/-! ## Paths -/

def isSlash (scheme : String) (c : Char) : Bool := c = '/' || (c = '\\' && isSpecial scheme)

/-- The parts between slashes. -/
def splitSlashes (scheme : String) : List Char → List (List Char)
  | [] => [[]]
  | c :: rest =>
    if isSlash scheme c then [] :: splitSlashes scheme rest
    else match splitSlashes scheme rest with
      | part :: parts => (c :: part) :: parts
      | [] => [[c]]

def smallLetters (chars : List Char) : List Char := chars.map Char.toLower

/-- A segment that stands for the segment itself. -/
def isSingleDot (segment : List Char) : Bool :=
  let small := smallLetters segment
  small = ['.'] || small = ['%', '2', 'e']

/-- A segment that stands for the one before it. -/
def isDoubleDot (segment : List Char) : Bool :=
  let small := smallLetters segment
  small = ['.', '.'] || small = ['.', '%', '2', 'e'] || small = ['%', '2', 'e', '.'] ||
    small = ['%', '2', 'e', '%', '2', 'e']

def isAnySlash (c : Char) : Bool := c = '/' || c = '\\'

/-- Whether a path, or one segment of it, starts with a drive letter. -/
def startsWithDrive (chars : List Char) : Bool :=
  isDriveLetter (chars.take 2) && (chars.drop 2).head?.all isAnySlash

/-- The segments without the last one; one that starts with a drive letter stays. -/
def withoutLast (path : List (List Char)) : List (List Char) :=
  if path.getLast?.any startsWithDrive then path else path.dropLast

/-- A segment as it is written; the drive letter in front of the path of a file gets a colon. -/
def written (scheme : String) (path : List (List Char)) (segment : List Char) : List Char :=
  if scheme = "file" && path.isEmpty && isDriveLetter segment then driveSegment segment
  else encode inPath segment

/-- The path with segments put behind it, the last of which nothing follows. -/
def extend (scheme : String) (path : List (List Char)) : List (List Char) → List (List Char)
  | [] => path
  | [last] =>
    if isDoubleDot last then withoutLast path ++ [[]]
    else if isSingleDot last then path ++ [[]]
    else path ++ [written scheme path last]
  | segment :: rest =>
    if isDoubleDot segment then extend scheme (withoutLast path) rest
    else if isSingleDot segment then extend scheme path rest
    else extend scheme (path ++ [written scheme path segment]) rest

/-- The segments of a text behind a path. -/
def segmentsBehind (scheme : String) (path : List (List Char)) (chars : List Char) :
    List (List Char) :=
  extend scheme path (splitSlashes scheme chars)

/-- The path without empty segments in front; one segment stays. -/
def withoutLead : List (List Char) → List (List Char)
  | [] :: segment :: rest => withoutLead (segment :: rest)
  | path => path

/-- A path of segments; that of a file has no empty ones in front. -/
def pathOf (scheme : String) (segments : List (List Char)) : Path :=
  .segments (if scheme = "file" then withoutLead segments else segments)

/-- The path of a URL that follows another one. -/
def following (scheme : String) (path : List (List Char)) (chars : List Char) : Path :=
  pathOf scheme (segmentsBehind scheme path chars)

/-- The path that stands behind an authority; it starts with a slash even if the text does not. -/
def rooted (scheme : String) : List Char → Path
  | [] => if isSpecial scheme then .segments [[]] else .segments []
  | c :: rest => following scheme [] (if isSlash scheme c then rest else c :: rest)

/-! ## Authorities -/

structure Authority where
  username : List Char
  password : List Char
  host : List Char
  port : Option Nat

namespace Authority

/-- What stands before and after the last mark. -/
def splitLast? (mark : Char) (chars : List Char) : Option (List Char × List Char) :=
  (Text.splitFirst? mark chars.reverse).map fun (after, before) => (before.reverse, after.reverse)

/-- What stands before the colon in front of a port, and after it if there is one. A colon between
brackets belongs to the host. -/
def cutPort (inside : Bool) : List Char → List Char × Option (List Char)
  | [] => ([], none)
  | c :: rest =>
    if c = ':' ∧ ¬ inside then ([], some rest)
    else
      let (host, port) := cutPort (if c = '[' then true else if c = ']' then false else inside) rest
      (c :: host, port)

/-- A port; the one that the scheme means anyway is dropped. -/
def port? (scheme : String) (digits : List Char) : Option (Option Nat) :=
  if ¬ digits.all Char.isDigit then none
  else
    let port := Numeral.digitsValue digits
    if 65535 < port then none
    else if digits.isEmpty ∨ defaultPort? scheme = some port then some none
    else some (some port)

def host? (scheme : String) (chars : List Char) (mayBeEmpty : Bool) : Option (List Char) :=
  if chars.isEmpty then if mayBeEmpty then some [] else none
  else if isSpecial scheme then specialHost? chars
  else plainHost? chars

/-- User name and password in front of the last `@`, and what follows it. -/
def cutUser (chars : List Char) : List Char × List Char × List Char :=
  match splitLast? '@' chars with
  | some (user, rest) =>
    let (username, password) := Text.cutAt ':' user
    (username, password.getD [], rest)
  | none => ([], [], chars)

/-- An authority, and what the text in front of the first slash holds beyond it: a backslash ends a
port, even where it is no slash. -/
def read? (scheme : String) (chars : List Char) : Option (Authority × List Char) := do
  let (username, password, rest) := cutUser chars
  let (host, port) := cutPort false rest
  let digits := (port.getD []).takeWhile (· ≠ '\\')
  let beyond := (port.getD []).dropWhile (· ≠ '\\')
  let host ← host? scheme host
    (!isSpecial scheme && username.isEmpty && password.isEmpty && port.isNone)
  let port ← port? scheme digits
  return (⟨encode inUserinfo username, encode inUserinfo password, host, port⟩, beyond)

end Authority

/-! ## Putting a URL together -/

def encodedQuery (scheme : String) (query : Option (List Char)) : Option (List Char) :=
  query.map (encode (if isSpecial scheme then inSpecialQuery else inQuery))

/-- The URL with a path, and with the query and the fragment of a reference. -/
def finish (url : Url) (path : Path) (reference : Cut) : Url :=
  { url with
    path
    query := encodedQuery url.scheme reference.query
    fragment := reference.fragment.map (encode inFragment) }

def bare (scheme : String) (host : Option (List Char)) : Url :=
  ⟨scheme, [], [], host, none, .segments [], none, none⟩

/-- A URL whose text goes on with an authority. A lone `@` names no user, and a path, a query or a
fragment may not follow it. -/
def withAuthority? (scheme : String) (chars : List Char) (reference : Cut) : Option Url := do
  let shown := chars.takeWhile (fun c => !isSlash scheme c)
  let rest := chars.dropWhile (fun c => !isSlash scheme c)
  let isLast := rest.isEmpty && reference.query.isNone && reference.fragment.isNone
  if shown = ['@'] ∧ ¬ isLast then none
  else
    let (authority, beyond) ← Authority.read? scheme shown
    return finish ⟨scheme, authority.username, authority.password, some authority.host,
      authority.port, .segments [], none, none⟩ (rooted scheme (beyond ++ rest)) reference

def baseSegments (base : Url) : List (List Char) :=
  match base.path with
  | .segments parts => parts
  | .whole _ => []

/-- The segments of a base below which its references go: all but the last one. A drive letter that
stands alone stays. -/
def lead (base : Url) : List (List Char) :=
  match base.baseSegments with
  | [segment] => if base.scheme = "file" && isPlainDriveLetter segment then [segment] else []
  | segments => segments.dropLast

/-- A reference without path keeps the path of its base, and without query also the query. -/
def inPlace (base : Url) (reference : Cut) : Url :=
  match reference.query with
  | some _ => finish base base.path reference
  | none => { base with fragment := reference.fragment.map (encode inFragment) }

/-- A reference without scheme, relative to a base. -/
def relative? (base : Url) (chars : List Char) (reference : Cut) : Option Url :=
  match chars with
  | [] => some (inPlace base reference)
  | '/' :: '/' :: rest => withAuthority? base.scheme rest reference
  | c :: rest =>
    if isAnySlash c then
      if rest.head?.any isAnySlash then
        withAuthority? base.scheme (rest.dropWhile isAnySlash) reference
      else some (finish base (following base.scheme [] rest) reference)
    else
      some (finish base
        (following base.scheme base.lead chars) reference)

/-- The host of a file; the local one is not written. -/
def fileHost? (chars : List Char) : Option (List Char) :=
  if chars.isEmpty then some []
  else (specialHost? chars).map fun host => if host = "localhost".toList then [] else host

/-- A file below a host, on which no drive is: a path that starts with a drive letter drops the
host. -/
def fileOn (host chars : List Char) (reference : Cut) : Url :=
  let segments := segmentsBehind "file" [] chars
  let isDrive := segments.head?.any isPlainDriveLetter
  finish (bare "file" (some (if isDrive then [] else host))) (pathOf "file" segments) reference

/-- A file below a host that the reference names, or a local one. A drive letter may stand in the
place of the host. -/
def fileBelowHost? (chars : List Char) (reference : Cut) : Option Url :=
  let shown := chars.takeWhile (fun c => !isAnySlash c)
  let rest := chars.dropWhile (fun c => !isAnySlash c)
  if isDriveLetter shown then
    some (finish (bare "file" (some [])) (following "file" [] chars) reference)
  else
    (fileHost? shown).map fun host =>
      if host.isEmpty then finish (bare "file" (some [])) (following "file" [] rest) reference
      else fileOn host (rest.drop 1) reference

/-- A file whose path starts at the root; host or drive are those of the base. -/
def fileBelowRoot (base : Option Url) (chars : List Char) (reference : Cut) : Url :=
  match base with
  | some base =>
    if startsWithDrive chars then
      finish (bare "file" (some [])) (following "file" [] chars) reference
    else
      match base.baseSegments with
      | drive :: _ =>
        if isPlainDriveLetter drive then
          finish (bare "file" (some [])) (following "file" [drive] chars) reference
        else finish (bare "file" base.host) (following "file" [] chars) reference
      | [] => finish (bare "file" base.host) (following "file" [] chars) reference
  | none => finish (bare "file" (some [])) (following "file" [] chars) reference

/-- A reference to a file, relative to another file if there is one. -/
def file? (base : Option Url) (chars : List Char) (reference : Cut) : Option Url :=
  match chars with
  | [] =>
    match base with
    | some base => some (inPlace base reference)
    | none => some (finish (bare "file" (some [])) (.segments [[]]) reference)
  | c :: rest =>
    if isAnySlash c then
      match rest with
      | d :: others =>
        if isAnySlash d then fileBelowHost? others reference
        else some (fileBelowRoot base rest reference)
      | [] => some (fileBelowRoot base rest reference)
    else
      match base with
      | some base =>
        if startsWithDrive chars then
          some (finish (bare "file" (some [])) (following "file" [] chars) reference)
        else
          some (finish base
            (following "file" base.lead chars) reference)
      | none => some (finish (bare "file" (some [])) (following "file" [] chars) reference)

/-- A reference with a scheme. -/
def absolute? (base : Option Url) (scheme : String) (chars : List Char) (reference : Cut) :
    Option Url :=
  if scheme = "file" then file? (base.filter (fun base => base.scheme = "file")) chars reference
  else if isSpecial scheme then
    let slashes := (chars.takeWhile isAnySlash).length
    match base.filter (fun base => base.scheme = scheme && slashes < 2) with
    | some base => relative? base chars reference
    | none => withAuthority? scheme (chars.dropWhile isAnySlash) reference
  else
    match chars with
    | '/' :: '/' :: rest => withAuthority? scheme rest reference
    | '/' :: rest => some (finish (bare scheme none) (following scheme [] rest) reference)
    | _ => some (finish (bare scheme none) (.whole (encode [] chars)) reference)

/-- A reference without a scheme; alone it is no URL. -/
def schemeless? (base : Option Url) (reference : Cut) : Option Url :=
  match base with
  | none => none
  | some base =>
    if base.canBeBase then
      if base.scheme = "file" then file? (some base) reference.front reference
      else relative? base reference.front reference
    else if reference.front.isEmpty ∧ reference.query.isNone ∧ reference.fragment.isSome then
      some (inPlace base reference)
    else none

def resolve? (base : Option Url) (chars : List Char) : Option Url :=
  let reference := cut (cleaned chars)
  match scheme? reference.front with
  | some (scheme, rest) => absolute? base scheme rest reference
  | none => schemeless? base reference

/-- Reads a URL that stands alone. -/
def read? (text : String) : Option Url := resolve? none text.toList

/-- Reads a reference relative to a base. -/
def join? (base : Url) (reference : String) : Option Url := resolve? (some base) reference.toList

end Url

end GeoChain
