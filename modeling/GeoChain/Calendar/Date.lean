/-!
# Dates and moments

Dates of the Gregorian calendar, extended to all years. A moment is a date with a time of day in
universal time. Moments are compared and moved by whole seconds; moving past midnight walks the
calendar day by day.
-/

namespace GeoChain

namespace Calendar

structure Date where
  year : Int
  month : Nat
  day : Nat
deriving DecidableEq, Repr

namespace Date

def isLeap (year : Int) : Bool := year % 4 = 0 && (year % 100 ≠ 0 || year % 400 = 0)

def daysIn (year : Int) (month : Nat) : Nat :=
  if month = 2 then if isLeap year then 29 else 28
  else if month = 4 || month = 6 || month = 9 || month = 11 then 30
  else 31

def IsReal (date : Date) : Prop :=
  1 ≤ date.month ∧ date.month ≤ 12 ∧ 1 ≤ date.day ∧ date.day ≤ daysIn date.year date.month

instance (date : Date) : Decidable date.IsReal := inferInstanceAs (Decidable (_ ∧ _))

def next (date : Date) : Date :=
  if date.day < daysIn date.year date.month then { date with day := date.day + 1 }
  else if date.month < 12 then ⟨date.year, date.month + 1, 1⟩
  else ⟨date.year + 1, 1, 1⟩

def previous (date : Date) : Date :=
  if 1 < date.day then { date with day := date.day - 1 }
  else if 1 < date.month then ⟨date.year, date.month - 1, daysIn date.year (date.month - 1)⟩
  else ⟨date.year - 1, 12, 31⟩

/-- The date some days later, or earlier if the number is negative. -/
def move (days : Int) (date : Date) : Date :=
  if 0 ≤ days then Nat.repeat next days.natAbs date else Nat.repeat previous days.natAbs date

end Date

/-- A date and the seconds and nanoseconds since its midnight. -/
structure Moment where
  date : Date
  second : Nat
  nano : Nat
deriving DecidableEq, Repr

namespace Moment

/-- The moment some seconds later, or earlier if the number is negative. -/
def move (seconds : Int) (moment : Moment) : Moment :=
  let total := (moment.second : Int) + seconds
  { moment with date := moment.date.move (total / 86400), second := (total % 86400).toNat }

/-- The parts of a moment, the largest unit first. -/
def key (moment : Moment) : List Int :=
  [moment.date.year, moment.date.month, moment.date.day, moment.second, moment.nano]

def isBefore (moment other : Moment) : Bool := moment.key < other.key

/-- The first moment that counts as an instant. -/
def first : Moment := ⟨⟨-9999, 1, 2⟩, 7199, 0⟩

/-- The last moment that counts as an instant. -/
def last : Moment := ⟨⟨9999, 12, 30⟩, 79200, 999999999⟩

def isInstant (moment : Moment) : Bool := !moment.isBefore first && !last.isBefore moment

/-- A number with at least so many digits. -/
def padded (width n : Nat) : List Char :=
  let digits := Nat.toDigits 10 n
  List.replicate (width - digits.length) '0' ++ digits

def yearChars (year : Int) : List Char :=
  if year < 0 then '-' :: padded 6 year.natAbs else padded 4 year.natAbs

/-- A fraction of a second without trailing zeros; nothing for a whole second. -/
def fractionChars (nano : Nat) : List Char :=
  if nano = 0 then []
  else '.' :: ((padded 9 nano).reverse.dropWhile (· = '0')).reverse

def chars (moment : Moment) : List Char :=
  yearChars moment.date.year ++ '-' :: padded 2 moment.date.month ++ '-' :: padded 2 moment.date.day
    ++ 'T' :: padded 2 (moment.second / 3600) ++ ':' :: padded 2 (moment.second / 60 % 60)
    ++ ':' :: padded 2 (moment.second % 60) ++ fractionChars moment.nano ++ ['Z']

def text (moment : Moment) : String := String.ofList moment.chars

end Moment

end Calendar

end GeoChain
