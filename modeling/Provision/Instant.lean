import Provision.Decimal

/-!
Dates of the Gregorian calendar, continued to all years, and the number of days from the first of
January 1970. The count runs through eras of 400 years that begin in March, so that the day that
only leap years have is the last one of its year.
-/

namespace Provision

structure Date where
  year : Int
  month : Nat
  day : Nat
deriving DecidableEq, Repr

namespace Date

def isLeap (year : Int) : Bool := year % 4 = 0 && (year % 100 ≠ 0 || year % 400 = 0)

def daysInMonth (year : Int) (month : Nat) : Nat :=
  if month = 2 then (if isLeap year then 29 else 28)
  else if month = 4 || month = 6 || month = 9 || month = 11 then 30
  else 31

def isValid (date : Date) : Bool :=
  1 ≤ date.month && date.month ≤ 12 && 1 ≤ date.day && date.day ≤ daysInMonth date.year date.month

def daysInEra : Int := 146097

/-- The days from the first of March of the year 0 to the first of January 1970. -/
def daysToEpoch : Int := 719468

def daysBeforeMonth (month : Int) : Int := (153 * month + 2) / 5

def daysBeforeYear (yearOfEra : Int) : Int :=
  365 * yearOfEra + yearOfEra / 4 - yearOfEra / 100

def toDays (date : Date) : Int :=
  let year := if date.month ≤ 2 then date.year - 1 else date.year
  let month : Int := if date.month ≤ 2 then date.month + 9 else date.month - 3
  (year / 400) * daysInEra + daysBeforeYear (year % 400) + daysBeforeMonth month +
    (date.day - 1) - daysToEpoch

def ofDays (days : Int) : Date :=
  let days := days + daysToEpoch
  let dayOfEra := days % daysInEra
  let yearOfEra := (dayOfEra - dayOfEra / 1460 + dayOfEra / 36524 - dayOfEra / 146096) / 365
  let dayOfYear := dayOfEra - daysBeforeYear yearOfEra
  let month := (5 * dayOfYear + 2) / 153
  let year := yearOfEra + days / daysInEra * 400
  { year := if month < 10 then year else year + 1
    month := (if month < 10 then month + 3 else month - 9).toNat
    day := (dayOfYear - daysBeforeMonth month + 1).toNat }

end Date

/-!
Points in time: whole seconds from the beginning of 1970, and nanoseconds. The nanoseconds of a
leap second go beyond a second; it comes after a second 59.
-/

structure Instant where
  seconds : Int
  nanos : Nat
  bounded : nanos < 2000000000
  leap : 1000000000 ≤ nanos → seconds % 60 = 59
deriving DecidableEq

namespace Instant

def of? (seconds : Int) (nanos : Nat) : Option Instant :=
  if bounded : nanos < 2000000000 then
    if leap : 1000000000 ≤ nanos → seconds % 60 = 59 then some ⟨seconds, nanos, bounded, leap⟩
    else none
  else none

def epoch : Instant := ⟨0, 0, by omega, by omega⟩

def date (instant : Instant) : Date := .ofDays (instant.seconds / 86400)

def secondOfDay (instant : Instant) : Nat := (instant.seconds % 86400).toNat

def yearText (year : Int) : String :=
  if 0 ≤ year && year ≤ 9999 then Decimal.padded 4 year.toNat
  else (if year < 0 then "-" else "+") ++ Decimal.padded 4 year.natAbs

/-- Date and time to the second; a leap second is the sixtieth. -/
def clock (instant : Instant) : String :=
  let date := instant.date
  let second := instant.secondOfDay % 60 + instant.nanos / 1000000000
  yearText date.year ++ "-" ++ Decimal.padded 2 date.month ++ "-" ++ Decimal.padded 2 date.day ++
    "T" ++ Decimal.padded 2 (instant.secondOfDay / 3600) ++ ":" ++
    Decimal.padded 2 (instant.secondOfDay / 60 % 60) ++ ":" ++ Decimal.padded 2 second

def subsecond (instant : Instant) : Nat := instant.nanos % 1000000000

def text (instant : Instant) : String :=
  instant.clock ++ "." ++ Decimal.padded 3 (instant.subsecond / 1000000) ++ "Z"

def fractionText (nanos : Nat) : String :=
  if nanos = 0 then ""
  else if nanos % 1000000 = 0 then "." ++ Decimal.padded 3 (nanos / 1000000)
  else if nanos % 1000 = 0 then "." ++ Decimal.padded 6 (nanos / 1000)
  else "." ++ Decimal.padded 9 nanos

def shown (instant : Instant) : String :=
  instant.clock ++ fractionText instant.subsecond ++ "Z"

/-!
Reading an instant from text such as `2024-01-02T03:04:05.678+01:00`. The parts are judged from
left to right, a date as soon as it is read, the time of day after its fraction.
-/

inductive ReadingFault where
  | tooShort
  | invalid
  | outOfRange
  | trailing
deriving DecidableEq, Repr

def ReadingFault.message : ReadingFault → String
  | tooShort => "premature end of input"
  | invalid => "input contains invalid characters"
  | outOfRange => "input is out of range"
  | trailing => "trailing input"

namespace Reading

def byteLength : List Char → Nat
  | [] => 0
  | char :: rest => char.utf8Size + byteLength rest

def digits (count : Nat) (text : List Char) : Except ReadingFault (Nat × List Char) :=
  let taken := text.take count
  if taken.length = count && taken.all Char.isDigit then
    .ok (Nat.ofDigitChars 10 taken 0, text.drop count)
  else .error .invalid

def mark (accepted : List Char) : List Char → Except ReadingFault (List Char)
  | char :: rest => if accepted.contains char then .ok rest else .error .invalid
  | [] => .error .invalid

def date (text : List Char) : Except ReadingFault (Date × List Char) := do
  let (year, text) ← digits 4 text
  let text ← mark ['-'] text
  let (month, text) ← digits 2 text
  let text ← mark ['-'] text
  let (day, text) ← digits 2 text
  let date : Date := ⟨year, month, day⟩
  if date.isValid then .ok (date, text) else .error .outOfRange

/-- Digits beyond the ninth are dropped. -/
def fraction : List Char → Except ReadingFault (Nat × List Char)
  | '.' :: [] => .error .tooShort
  | '.' :: rest =>
      let taken := (rest.takeWhile Char.isDigit).take 9
      if taken = [] then .error .invalid
      else
        let nanos := Nat.ofDigitChars 10 taken 0 * Decimal.tenTo (9 - taken.length)
        .ok (nanos, rest.dropWhile Char.isDigit)
  | text => .ok (0, text)

structure Time where
  hour : Nat
  minute : Nat
  second : Nat
  nanos : Nat

def time (text : List Char) : Except ReadingFault (Time × List Char) := do
  let (hour, text) ← digits 2 text
  let text ← mark [':'] text
  let (minute, text) ← digits 2 text
  let text ← mark [':'] text
  let (second, text) ← digits 2 text
  let (nanos, text) ← fraction text
  if hour > 23 || minute > 59 || second > 60 then .error .outOfRange
  else .ok (⟨hour, minute, second, nanos⟩, text)

def hours (text : List Char) : Except ReadingFault (Nat × List Char) :=
  if byteLength text < 2 then .error .tooShort else digits 2 text

def colon : List Char → Except ReadingFault (List Char)
  | [] => .error .tooShort
  | text => mark [':'] text

def minutes (text : List Char) : Except ReadingFault (Nat × List Char) :=
  if byteLength text < 2 then .error .tooShort
  else
    match digits 2 text with
    | .ok (minutes, rest) => if minutes > 59 then .error .outOfRange else .ok (minutes, rest)
    | .error fault => .error fault

def offset : List Char → Except ReadingFault (Int × List Char)
  | [] => .error .tooShort
  | char :: rest => do
      if char = 'Z' || char = 'z' then return (0, rest)
      let negative ←
        if char = '+' then pure false
        else if char = '-' || char = '\u2212' then pure true
        else throw .invalid
      let (hours, rest) ← hours rest
      let rest ← colon rest
      let (minutes, rest) ← minutes rest
      let ahead := Int.ofNat (hours * 60 + minutes)
      return (if negative then -ahead else ahead, rest)

/-- A second 60 is the leap second after second 59, whatever the minute. -/
def assemble (date : Date) (time : Time) (offset : Int) : Option Instant :=
  let leap := time.second = 60
  let second := if leap then 59 else time.second
  let nanos := if leap then time.nanos + 1000000000 else time.nanos
  Instant.of?
    (date.toDays * 86400 + time.hour * 3600 + time.minute * 60 + second - offset * 60) nanos

end Reading

def read (text : String) : Except ReadingFault Instant := do
  let chars := text.toList
  if Reading.byteLength chars < 19 then throw .tooShort
  let (date, chars) ← Reading.date chars
  let chars ← Reading.mark ['T', 't', ' '] chars
  let (time, chars) ← Reading.time chars
  let (offset, chars) ← Reading.offset chars
  if chars ≠ [] then throw .trailing
  if offset ≤ -1440 || 1440 ≤ offset then throw .outOfRange
  match Reading.assemble date time offset with
  | some instant => pure instant
  | none => throw .outOfRange

end Instant

end Provision
