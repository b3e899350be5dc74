import Soak.Text.Blank
import Soak.Time.Duration

/-!
# Points in time

A point in time is kept as the parts of its date and time in UTC on the proleptic
Gregorian calendar.  The text form is that of RFC 3339.  Reading is lenient: the date and
the time may be parted by a space, blanks may stand before a number or a separator, a
number may have fewer digits, and a year may carry a sign.  A second of `60` is a leap
second, and digits of a fraction beyond the ninth are dropped.
-/

namespace Soak

/-- A date and a time of day in UTC. -/
structure Timestamp where
  /-- The year; zero is the year before the year one. -/
  year : Int
  /-- The month, from 1. -/
  month : Nat
  /-- The day of the month, from 1. -/
  day : Nat
  /-- The hour, from 0. -/
  hour : Nat
  /-- The minute, from 0. -/
  minute : Nat
  /-- The second, from 0; it is 60 in a leap second. -/
  second : Nat
  /-- The nanoseconds of the second. -/
  nano : Nat
deriving DecidableEq, Repr, Inhabited

namespace Timestamp

/-- A year with a twenty-ninth of February. -/
def isLeapYear (year : Int) : Bool :=
  (year % 4 = 0 && year % 100 ≠ 0) || year % 400 = 0

/-- The number of days of a month. -/
def daysIn (year : Int) : Nat → Nat
  | 2 => if isLeapYear year then 29 else 28
  | 4 | 6 | 9 | 11 => 30
  | _ => 31

/-- The years that a date may have. -/
def inCalendar (year : Int) : Bool :=
  -262143 ≤ year && year ≤ 262142

/-- A date and time that exists. -/
def isValid (t : Timestamp) : Bool :=
  inCalendar t.year && 1 ≤ t.month && t.month ≤ 12 && 1 ≤ t.day && t.day ≤ daysIn t.year t.month
    && t.hour < 24 && t.minute < 60 && t.second ≤ 60 && t.nano < 1000000000

/-- The number of days from the first of January 1970, negative before it.  The year is
counted from March, so that a leap day is its last day. -/
def dayNumber (t : Timestamp) : Int :=
  let year := if t.month ≤ 2 then t.year - 1 else t.year
  let monthFromMarch : Int := (t.month + 9) % 12
  let era := year / 400
  let yearOfEra := year % 400
  let dayOfYear := (153 * monthFromMarch + 2) / 5 + t.day - 1
  era * 146097 + (yearOfEra * 365 + yearOfEra / 4 - yearOfEra / 100 + dayOfYear) - 719468

/-- The seconds of the day that have begun before the current one. -/
def secondOfDay (t : Timestamp) : Int :=
  t.hour * 3600 + t.minute * 60 + min t.second 59

/-- The nanoseconds since that second began: a leap second is a second long second. -/
def nanoOfSecond (t : Timestamp) : Int :=
  t.nano + if t.second = 60 then 1000000000 else 0

/-- The nanoseconds from `s` to `t`, with a leap second that one of them lies in counted
if the time of day passes over it. -/
def nanosSince (t s : Timestamp) : Int :=
  let passed : Int :=
    if s.secondOfDay < t.secondOfDay ∧ s.second = 60 then 1
    else if t.secondOfDay < s.secondOfDay ∧ t.second = 60 then -1
    else 0
  ((t.dayNumber - s.dayNumber) * 86400 + (t.secondOfDay - s.secondOfDay) + passed) * 1000000000
    + (t.nanoOfSecond - s.nanoOfSecond)

/-- The time from `s` to `t`, zero if `t` is not later. -/
def since (t s : Timestamp) : Duration :=
  ⟨(t.nanosSince s).toNat⟩

/-- The milliseconds since the start of 1970. -/
def unixMillis (t : Timestamp) : Int :=
  (t.dayNumber * 86400 + t.secondOfDay) * 1000 + t.nanoOfSecond / 1000000

/-- The same time of day on the day after. -/
def nextDay (t : Timestamp) : Timestamp :=
  if t.day < daysIn t.year t.month then { t with day := t.day + 1 }
  else if t.month < 12 then { t with month := t.month + 1, day := 1 }
  else { t with year := t.year + 1, month := 1, day := 1 }

/-- The same time of day on the day before. -/
def previousDay (t : Timestamp) : Timestamp :=
  if 1 < t.day then { t with day := t.day - 1 }
  else if 1 < t.month then { t with month := t.month - 1, day := daysIn t.year (t.month - 1) }
  else { t with year := t.year - 1, month := 12, day := 31 }

/-- The time a number of minutes later, less than a day off in either direction. -/
def shiftMinutes (t : Timestamp) (minutes : Int) : Timestamp :=
  let total : Int := t.hour * 60 + t.minute + minutes
  let inDay := (total % 1440).toNat
  let shifted := { t with hour := inDay / 60, minute := inDay % 60 }
  if total < 0 then shifted.previousDay
  else if 1440 ≤ total then shifted.nextDay
  else shifted

/-! ### The text form -/

/-- A number with zeros in front up to a width. -/
def padded (width n : Nat) : String :=
  let digits := Nat.toDigits 10 n
  String.ofList (List.replicate (width - digits.length) '0' ++ digits)

/-- The year with four digits, and with a sign outside the years 0 to 9999. -/
def yearText (year : Int) : String :=
  if 0 ≤ year ∧ year ≤ 9999 then padded 4 year.toNat
  else (if year < 0 then "-" else "+") ++ padded 4 year.natAbs

/-- The fraction of a second with the fewest of 0, 3, 6 or 9 digits that are exact. -/
def fractionText (nano : Nat) : String :=
  if nano = 0 then ""
  else if nano % 1000000 = 0 then "." ++ padded 3 (nano / 1000000)
  else if nano % 1000 = 0 then "." ++ padded 6 (nano / 1000)
  else "." ++ padded 9 nano

/-- The date and the time of day, without a zone. -/
def dateTimeText (t : Timestamp) : String :=
  yearText t.year ++ "-" ++ padded 2 t.month ++ "-" ++ padded 2 t.day ++ "T" ++ padded 2 t.hour
    ++ ":" ++ padded 2 t.minute ++ ":" ++ padded 2 t.second ++ fractionText t.nano

/-- The text with the zone `Z`. -/
def toZulu (t : Timestamp) : String :=
  t.dateTimeText ++ "Z"

/-- The text with the zone `+00:00`. -/
def toOffset (t : Timestamp) : String :=
  t.dateTimeText ++ "+00:00"

/-- The text without the blanks at its start. -/
def skipBlank (cs : List Char) : List Char :=
  cs.dropWhile Text.isBlank

/-- A number of at least one and at most `width` digits, after blanks. -/
def readNumber (width : Nat) (cs : List Char) : Option (Nat × List Char) :=
  let cs := skipBlank cs
  let digits := (cs.take width).takeWhile Char.isDigit
  if digits.isEmpty then none
  else
    some (digits.foldl (fun n d => n * 10 + (d.toNat - '0'.toNat)) 0, cs.drop digits.length)

/-- A year: up to four digits, or any number of them after a sign. -/
def readYear (cs : List Char) : Option (Int × List Char) :=
  let signed (rest : List Char) (sign : Int) : Option (Int × List Char) :=
    match rest with
    | c :: _ =>
      if c.isDigit then (readNumber rest.length rest).map fun (n, after) => (sign * n, after)
      else none
    | [] => none
  match skipBlank cs with
  | '-' :: rest => signed rest (-1)
  | '+' :: rest => signed rest 1
  | rest => (readNumber 4 rest).map fun (n, after) => (n, after)

/-- The text after a separator, which may follow blanks. -/
def readMark (mark : Char) (cs : List Char) : Option (List Char) :=
  match skipBlank cs with
  | c :: rest => if c = mark then some rest else none
  | [] => none

/-- The nanoseconds of a fraction, if there is one; digits beyond the ninth are dropped. -/
def readFraction : List Char → Option (Nat × List Char)
  | '.' :: rest =>
    let digits := rest.takeWhile Char.isDigit
    if digits.isEmpty then none
    else
      let nine := (digits ++ List.replicate 9 '0').take 9
      some (nine.foldl (fun n d => n * 10 + (d.toNat - '0'.toNat)) 0, rest.dropWhile Char.isDigit)
  | cs => some (0, cs)

/-- The offset of a zone in minutes: `Z`, `UTC`, or a sign, two digits of hours and two
of minutes, less than a day. -/
def readZone (cs : List Char) : Option (Int × List Char) :=
  let offset (rest : List Char) (sign : Int) : Option (Int × List Char) :=
    match rest with
    | h₁ :: h₂ :: rest =>
      match rest.dropWhile (fun c => c = ':' || Text.isBlank c) with
      | m₁ :: m₂ :: rest =>
        let value (c : Char) : Nat := c.toNat - '0'.toNat
        let hours := value h₁ * 10 + value h₂
        let minutes := value m₁ * 10 + value m₂
        if h₁.isDigit && h₂.isDigit && m₁.isDigit && m₂.isDigit && hours < 24 && minutes < 60 then
          some (sign * (hours * 60 + minutes : Nat), rest)
        else none
      | _ => none
    | _ => none
  match skipBlank cs with
  | 'Z' :: rest | 'z' :: rest => some (0, rest)
  | '+' :: rest => offset rest 1
  | '-' :: rest | '−' :: rest => offset rest (-1)
  | a :: b :: c :: rest =>
    if [a.toUpper, b.toUpper, c.toUpper] = ['U', 'T', 'C'] then some (0, rest) else none
  | _ => none

/-- The point in time that a text writes, moved to UTC. -/
def ofText? (text : String) : Option Timestamp := do
  let (year, cs) ← readYear text.toList
  let (month, cs) ← readNumber 2 (← readMark '-' cs)
  let (day, cs) ← readNumber 2 (← readMark '-' cs)
  let cs ← (match cs with
    | c :: rest => if c = 'T' ∨ c = 't' ∨ c = ' ' then some rest else none
    | [] => none)
  let (hour, cs) ← readNumber 2 cs
  let (minute, cs) ← readNumber 2 (← readMark ':' cs)
  let (second, cs) ← readNumber 2 (← readMark ':' cs)
  let (nano, cs) ← readFraction cs
  let (offset, cs) ← readZone cs
  let t : Timestamp := ⟨year, month, day, hour, minute, second, nano⟩
  let utc := t.shiftMinutes (-offset)
  if t.isValid && inCalendar utc.year && (skipBlank cs).isEmpty then some utc else none

example : ofText? "2024-05-01T14:00:01.5+02:00" = some ⟨2024, 5, 1, 12, 0, 1, 500000000⟩ := by
  decide +kernel

example : ofText? "2024-05-01" = none := by decide +kernel

example : (Timestamp.mk 2024 3 1 0 0 0 0).since ⟨2024, 2, 28, 0, 0, 0, 0⟩
    = Duration.ofSecs 172800 := by decide +kernel

end Timestamp

end Soak
