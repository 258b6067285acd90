import SpriteStage.Text.Blank
import SpriteStage.Text.Digit
import SpriteStage.Time.Duration

/-! # Points in time

A point in time is a number of seconds since the beginning of 1970 in UTC, and a part of a second.
In a leap second that part runs past one second. The texts are those of RFC 3339.

* `dayNumber`, `calendarDate` — the calendar as a count of days, and back
* `Timestamp.text` — a point in time, in UTC
* `Timestamp.ofText?` — a point in time written with any offset from UTC
-/

namespace SpriteStage

set_option autoImplicit false

/-- A point in time: seconds since the beginning of 1970, and nanoseconds after that second. -/
structure Timestamp where
  seconds : Int
  nanos : Nat
deriving DecidableEq

/-! ## The calendar -/

/--
The number of days from the first of January 1970 to a date. Years are taken to begin in March, so
that the leap day is the last of its year, and to repeat every 400.
-/
def dayNumber (year : Int) (month day : Nat) : Int :=
  let year := if month ≤ 2 then year - 1 else year
  let era := Int.fdiv year 400
  let yearOfEra := year - era * 400
  let monthFromMarch : Int := if month ≤ 2 then month + 9 else (month : Int) - 3
  -- from March on, five months in a row have 153 days
  let dayOfYear := (153 * monthFromMarch + 2) / 5 + day - 1
  let dayOfEra := yearOfEra * 365 + yearOfEra / 4 - yearOfEra / 100 + dayOfYear
  era * 146097 + dayOfEra - 719468

/-- The year, month and day of a number of days from the first of January 1970. -/
def calendarDate (days : Int) : Int × Nat × Nat :=
  let days := days + 719468
  let era := Int.fdiv days 146097
  let dayOfEra := days - era * 146097
  let yearOfEra := (dayOfEra - dayOfEra / 1460 + dayOfEra / 36524 - dayOfEra / 146096) / 365
  let dayOfYear := dayOfEra - (365 * yearOfEra + yearOfEra / 4 - yearOfEra / 100)
  let monthFromMarch := (5 * dayOfYear + 2) / 153
  let day := dayOfYear - (153 * monthFromMarch + 2) / 5 + 1
  let month := if monthFromMarch < 10 then monthFromMarch + 3 else monthFromMarch - 9
  let year := yearOfEra + era * 400 + if month ≤ 2 then 1 else 0
  (year, month.toNat, day.toNat)

def isLeapYear (year : Int) : Bool :=
  year % 4 = 0 && (year % 100 ≠ 0 || year % 400 = 0)

def daysInMonth (year : Int) (month : Nat) : Nat :=
  if month = 2 then (if isLeapYear year then 29 else 28)
  else if month = 4 ∨ month = 6 ∨ month = 9 ∨ month = 11 then 30
  else 31

namespace Timestamp

/-- The point in time a duration later. -/
def after (t : Timestamp) (d : Duration) : Timestamp :=
  let total := t.nanos + d.nanos
  ⟨t.seconds + (total / 1000000000 : Nat), total % 1000000000⟩

/-! ## Writing -/

def twoDigits (n : Nat) : String :=
  digitsText (Decimal.lastDigits 2 n)

/-- A year in four digits, with a sign and as many digits as it takes outside of those. -/
def yearText (year : Int) : String :=
  if 0 ≤ year ∧ year ≤ 9999 then digitsText (Decimal.lastDigits 4 year.natAbs)
  else
    let places := max 4 (Decimal.digitCount year.natAbs)
    (if year < 0 then "-" else "+") ++ digitsText (Decimal.lastDigits places year.natAbs)

/-- A part of a second in the first of no, three, six and nine digits that loses nothing. -/
def nanosText (nanos : Nat) : String :=
  if nanos = 0 then ""
  else if nanos % 1000000 = 0 then "." ++ digitsText (Decimal.lastDigits 3 (nanos / 1000000))
  else if nanos % 1000 = 0 then "." ++ digitsText (Decimal.lastDigits 6 (nanos / 1000))
  else "." ++ digitsText (Decimal.lastDigits 9 nanos)

/-- A point in time in UTC. Inside a leap second the seconds read 60. -/
def text (t : Timestamp) : String :=
  let (year, month, day) := calendarDate (Int.fdiv t.seconds 86400)
  let second := (Int.fmod t.seconds 86400).toNat
  let leap := t.nanos / 1000000000
  yearText year ++ "-" ++ twoDigits month ++ "-" ++ twoDigits day ++ "T"
    ++ twoDigits (second / 3600) ++ ":" ++ twoDigits (second / 60 % 60) ++ ":"
    ++ twoDigits (second % 60 + leap) ++ nanosText (t.nanos % 1000000000) ++ "Z"

/-! ## Reading -/

/-- Leaves out white space at the front. -/
def skipBlanks (cs : List Char) : List Char :=
  cs.dropWhile isBlank

/-- One to `width` digits as a number, and what follows them; white space may come first. -/
def readNumber? (width : Nat) (cs : List Char) : Option (Nat × List Char) :=
  let cs := skipBlanks cs
  match (cs.take width).takeWhile Char.isDigit with
  | [] => none
  | digits => some (decimalValue digits, cs.drop digits.length)

/-- A year: four digits at most, or a sign and any number of digits. -/
def readYear? (cs : List Char) : Option (Int × List Char) :=
  match skipBlanks cs with
  | '-' :: rest => (readSigned? rest).map fun (n, rest) => (-(n : Int), rest)
  | '+' :: rest => (readSigned? rest).map fun (n, rest) => ((n : Int), rest)
  | cs => (readNumber? 4 cs).map fun (n, rest) => ((n : Int), rest)
where
  /-- The digits after the sign of a year. -/
  readSigned? (cs : List Char) : Option (Nat × List Char) :=
    match cs.takeWhile Char.isDigit with
    | [] => none
    | digits => some (decimalValue digits, cs.dropWhile Char.isDigit)

/-- A separator, before which white space may stand. -/
def readMark? (mark : Char) (cs : List Char) : Option (List Char) :=
  match skipBlanks cs with
  | c :: rest => if c = mark then some rest else none
  | [] => none

/-- The part of a second behind a point; digits after the ninth are passed over. -/
def readNanos? : List Char → Option (Nat × List Char)
  | '.' :: rest =>
    match rest.takeWhile Char.isDigit with
    | [] => none
    | digits =>
      let kept := digits.take 9
      some (decimalValue kept * Nat.pow 10 (9 - kept.length), rest.dropWhile Char.isDigit)
  | cs => some (0, cs)

/-- Two digits, and what follows them. -/
def readPair? : List Char → Option (Nat × List Char)
  | a :: b :: rest => if a.isDigit && b.isDigit then some (decimalValue [a, b], rest) else none
  | _ => none

/-- Hours and minutes of an offset, in seconds. -/
def readOffsetSize? (cs : List Char) : Option (Nat × List Char) := do
  let (hours, rest) ← readPair? cs
  let (minutes, rest) ← readPair? (rest.dropWhile fun c => c = ':' || isBlank c)
  if hours < 24 ∧ minutes < 60 then some (hours * 3600 + minutes * 60, rest) else none

/-- An offset from UTC in seconds. -/
def readOffset? : List Char → Option (Int × List Char)
  | '+' :: rest => (readOffsetSize? rest).map fun (n, rest) => ((n : Int), rest)
  | '-' :: rest => (readOffsetSize? rest).map fun (n, rest) => (-(n : Int), rest)
  | '−' :: rest => (readOffsetSize? rest).map fun (n, rest) => (-(n : Int), rest)
  | cs =>
    if (cs.take 3).map Char.toUpper = ['U', 'T', 'C'] then some (0, cs.drop 3)
    else match cs with
      | c :: rest => if c = 'Z' ∨ c = 'z' then some (0, rest) else none
      | [] => none

/-- The calendar goes from the year -262143 to the year 262142. -/
def isCalendarYear (year : Int) : Bool :=
  decide (-262143 ≤ year) && decide (year ≤ 262142)

/--
The point in time of a date, a time of day and an offset, if there is such a date and time. Both the
date and that of the same time in UTC have to be in the calendar.
-/
def ofParts? (year : Int) (month day hour minute second nanos : Nat) (offset : Int) :
    Option Timestamp :=
  if isCalendarYear year ∧ 1 ≤ month ∧ month ≤ 12 ∧ 1 ≤ day
      ∧ day ≤ daysInMonth year month ∧ hour < 24 ∧ minute < 60 ∧ second ≤ 60 then
    -- second 60 is the last second of the minute, drawn out
    let leap := second / 60
    let ofDay : Int := hour * 3600 + minute * 60 + (second - leap : Nat)
    let seconds := dayNumber year month day * 86400 + ofDay - offset
    if isCalendarYear (calendarDate (Int.fdiv seconds 86400)).1 then
      some ⟨seconds, nanos + leap * 1000000000⟩
    else none
  else none

/--
A point in time: a date, `T`, `t` or a space, a time of day with second, and an offset. White space
before a number or a separator does no harm.
-/
def ofText? (text : String) : Option Timestamp := do
  let (year, cs) ← readYear? text.toList
  let (month, cs) ← readNumber? 2 (← readMark? '-' cs)
  let (day, cs) ← readNumber? 2 (← readMark? '-' cs)
  let cs ← match cs with
    | c :: rest => if c = 'T' ∨ c = 't' ∨ c = ' ' then some rest else none
    | [] => none
  let (hour, cs) ← readNumber? 2 cs
  let (minute, cs) ← readNumber? 2 (← readMark? ':' cs)
  let (second, cs) ← readNumber? 2 (← readMark? ':' cs)
  let (nanos, cs) ← readNanos? cs
  let (offset, cs) ← readOffset? (skipBlanks cs)
  if cs.all isBlank then ofParts? year month day hour minute second nanos offset else none

def toJson (t : Timestamp) : Json :=
  .ofString t.text

def ofJson? (j : Json) : Option Timestamp := do
  ofText? (← j.toString?)

end Timestamp

end SpriteStage
