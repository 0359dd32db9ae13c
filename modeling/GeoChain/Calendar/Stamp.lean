import GeoChain.Calendar.Date
import GeoChain.Number.Numeral
import GeoChain.Text.Split

/-!
# Written dates and times

A stamp is a date, then perhaps a time of day, then perhaps an offset from universal time, and at
the end perhaps bracketed annotations: one time zone and any number of keys with values. The marks
inside a date or a time are all there or all missing. Annotations have to be well formed and are
otherwise ignored.
-/

namespace GeoChain

namespace Calendar

structure Clock where
  hour : Nat
  minute : Nat
  second : Nat
  nano : Nat
deriving DecidableEq, Repr

/-- An offset from universal time: the letter for none at all, or a signed time. -/
inductive Offset where
  | zulu
  | signed (negative : Bool) (ahead : Clock)
deriving DecidableEq, Repr

/-- How many seconds an offset is ahead, rounded; an offset of 26 hours is too much. -/
def Offset.ahead? : Offset → Option Int
  | .zulu => some 0
  | .signed negative clock =>
    let size := clock.hour * 3600 + clock.minute * 60 + clock.second +
      if 500000000 ≤ clock.nano then 1 else 0
    if 93600 ≤ size then none else some (if negative then -(size : Int) else size)

structure Stamp where
  date : Date
  clock : Option Clock
  offset : Option Offset
deriving DecidableEq, Repr

namespace Stamp

/-- The number that so many digits stand for, and the rest. -/
def digits? (count : Nat) (chars : List Char) : Option (Nat × List Char) :=
  let lead := chars.take count
  if lead.length = count ∧ lead.all Char.isDigit then
    some (Numeral.digitsValue lead, chars.drop count)
  else none

/-- Two digits for a number below a limit. -/
def below? (limit : Nat) (chars : List Char) : Option (Nat × List Char) :=
  (digits? 2 chars).bind fun (n, rest) => if n < limit then some (n, rest) else none

/-- Four digits, or a sign and six; there is no negative year zero and no year beyond 9999. -/
def year? (chars : List Char) : Option (Int × List Char) :=
  match chars with
  | [] => none
  | sign :: rest =>
    if sign = '-' then
      (digits? 6 rest).bind fun (n, rest) =>
        if n = 0 ∨ 9999 < n then none else some (-(n : Int), rest)
    else if sign = '+' then
      (digits? 6 rest).bind fun (n, rest) => if 9999 < n then none else some ((n : Int), rest)
    else (digits? 4 chars).map fun (n, rest) => ((n : Int), rest)

/-- The rest behind a mark, if the mark is there. -/
def after? (mark : Char) : List Char → Option (List Char)
  | [] => none
  | c :: rest => if c = mark then some rest else none

def date? (chars : List Char) : Option (Date × List Char) := do
  let (year, rest) ← year? chars
  let marked := rest.head? = some '-'
  let rest ← if marked then after? '-' rest else some rest
  let (month, rest) ← digits? 2 rest
  let rest ← if marked then after? '-' rest else some rest
  let (day, rest) ← digits? 2 rest
  let date : Date := ⟨year, month, day⟩
  if date.IsReal then some (date, rest) else none

/-- A fraction of a second in nanoseconds, up to nine digits; zero if there is none. -/
def fraction? (chars : List Char) : Option (Nat × List Char) :=
  match chars with
  | [] => some (0, [])
  | mark :: rest =>
    if mark = '.' ∨ mark = ',' then
      let digits := (rest.take 9).takeWhile Char.isDigit
      if digits.isEmpty then none
      else
        let scale := Nat.pow 10 (9 - digits.length)
        some (Numeral.digitsValue digits * scale, rest.drop digits.length)
    else some (0, chars)

/-- The rest behind the mark in front of the next part of a time, if there is a next part. -/
def nextPart? (marked : Bool) (chars : List Char) : Option (List Char) :=
  if marked then after? ':' chars
  else if (digits? 2 chars).isSome then some chars else none

/-- Hours, then perhaps minutes, then perhaps seconds with a fraction. -/
def clock? (hours seconds : Nat) (chars : List Char) : Option (Clock × List Char) := do
  let (hour, rest) ← below? hours chars
  let marked := rest.head? = some ':'
  match nextPart? marked rest with
  | none => some (⟨hour, 0, 0, 0⟩, rest)
  | some rest =>
    let (minute, rest) ← below? 60 rest
    match nextPart? marked rest with
    | none => some (⟨hour, minute, 0, 0⟩, rest)
    | some rest =>
      let (second, rest) ← below? seconds rest
      let (nano, rest) ← fraction? rest
      some (⟨hour, minute, second, nano⟩, rest)

/-- A time of day; a leap second counts as the second before it. -/
def timeOfDay? (chars : List Char) : Option (Clock × List Char) :=
  (clock? 24 61 chars).map fun (clock, rest) => ({ clock with second := min clock.second 59 }, rest)

def offset? (chars : List Char) : Option (Option Offset × List Char) :=
  match chars with
  | [] => some (none, [])
  | c :: rest =>
    if c = 'Z' ∨ c = 'z' then some (some .zulu, rest)
    else if c = '+' ∨ c = '-' then
      (clock? 26 60 rest).map fun (clock, rest) => (some (.signed (c = '-') clock), rest)
    else some (none, chars)

mutual

/-- The texts between brackets that make up the rest of a stamp. -/
def annotations? : List Char → Option (List (List Char))
  | [] => some []
  | c :: rest => if c = '[' then (inside? rest).map fun (text, others) => text :: others else none

/-- The rest of a text up to its bracket, and the texts between brackets after it. -/
def inside? : List Char → Option (List Char × List (List Char))
  | [] => none
  | c :: rest =>
    if c = ']' then (annotations? rest).map fun others => ([], others)
    else (inside? rest).map fun (text, others) => (c :: text, others)

end

def isKeyStart (c : Char) : Bool := c.isLower || c = '_'

def isKey : List Char → Bool
  | [] => false
  | c :: rest => isKeyStart c && rest.all fun d => isKeyStart d || d.isDigit || d = '-'

def isKeyValue (chars : List Char) : Bool :=
  (Text.split '-' chars).all fun run => !run.isEmpty && run.all Char.isAlphanum

def isKeyed (chars : List Char) : Bool :=
  match Text.splitFirst? '=' chars with
  | some (key, value) => isKey key && isKeyValue value
  | none => false

def isZoneStart (c : Char) : Bool := c.isAlpha || c = '.' || c = '_'

def isZonePart : List Char → Bool
  | [] => false
  | c :: rest => isZoneStart c && rest.all fun d => isZoneStart d || d.isDigit || d = '-' || d = '+'

/-- An offset without seconds. -/
def isZoneOffset (chars : List Char) : Bool :=
  match below? 26 chars with
  | none => false
  | some (_, rest) =>
    rest.isEmpty ||
      match nextPart? (rest.head? = some ':') rest with
      | none => false
      | some rest =>
        match below? 60 rest with
        | some (_, rest) => rest.isEmpty
        | none => false

def isZone (chars : List Char) : Bool :=
  let name := (after? '!' chars).getD chars
  match name with
  | [] => false
  | c :: rest =>
    if c = '+' ∨ c = '-' then isZoneOffset rest else (Text.split '/' name).all isZonePart

/-- One zone at most, and in front of everything else. -/
def areAnnotations : List (List Char) → Bool
  | [] => true
  | first :: others => (isZone first || isKeyed first) && others.all isKeyed

/-- The time and the offset behind a date, and the rest. -/
def timed? (chars : List Char) : Option (Option Clock × Option Offset × List Char) :=
  match chars with
  | [] => some (none, none, [])
  | c :: rest =>
    if c = 'T' ∨ c = 't' ∨ c = ' ' then do
      let (clock, rest) ← timeOfDay? rest
      let (offset, rest) ← offset? rest
      some (some clock, offset, rest)
    else some (none, none, chars)

def read? (chars : List Char) : Option Stamp := do
  let (date, rest) ← date? chars
  let (clock, offset, rest) ← timed? rest
  let annotations ← annotations? rest
  if areAnnotations annotations then some ⟨date, clock, offset⟩ else none

/-- The instant of a stamp that has a time and an offset. -/
def instant? (stamp : Stamp) : Option Moment := do
  let clock ← stamp.clock
  let offset ← stamp.offset
  let ahead ← offset.ahead?
  let shown : Moment :=
    ⟨stamp.date, clock.hour * 3600 + clock.minute * 60 + clock.second, clock.nano⟩
  let moment := shown.move (-ahead)
  if moment.isInstant then some moment else none

/-- Whether a text can bound a range of time: it is a stamp, and if it is in universal time then it
is an instant. -/
def isBound (chars : List Char) : Bool :=
  match read? chars with
  | none => false
  | some stamp => stamp.offset ≠ some .zulu || stamp.instant?.isSome

end Stamp

end Calendar

end GeoChain
