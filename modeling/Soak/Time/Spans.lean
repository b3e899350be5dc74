import Soak.Text.Blank
import Soak.Time.Duration

/-!
# Durations as people write them

A text such as `1h 30m` is a sequence of spans, each a number and a unit.  Blanks may
stand before, between and after the spans and inside a number; a fraction has to be exact
in nanoseconds, or in whole seconds for the units from the hour upwards.  Every product
and sum is a 64-bit number, and a text that exceeds one of them is refused.

`Duration.spans` writes the same form with the largest units first, and
`Duration.ofSpans?` reads it.
-/

namespace Soak.Duration

/-- The units of time. -/
inductive TimeUnit where
  /-- Nanoseconds. -/
  | nanosecond
  /-- Microseconds. -/
  | microsecond
  /-- Milliseconds. -/
  | millisecond
  /-- Seconds. -/
  | second
  /-- Minutes. -/
  | minute
  /-- Hours. -/
  | hour
  /-- Days of twenty-four hours. -/
  | day
  /-- Weeks of seven days. -/
  | week
  /-- Twelfths of a year. -/
  | month
  /-- Years of 365.25 days. -/
  | year
deriving DecidableEq, Repr

namespace TimeUnit

/-- The names a unit may be written with. -/
def names : TimeUnit → List String
  | nanosecond => ["nanos", "nsec", "ns"]
  | microsecond => ["usec", "us", "µs"]
  | millisecond => ["millis", "msec", "ms"]
  | second => ["seconds", "second", "secs", "sec", "s"]
  | minute => ["minutes", "minute", "min", "mins", "m"]
  | hour => ["hours", "hour", "hr", "hrs", "h"]
  | day => ["days", "day", "d"]
  | week => ["weeks", "week", "wk", "wks", "w"]
  | month => ["months", "month", "M"]
  | year => ["years", "year", "yr", "yrs", "y"]

/-- Every unit. -/
def all : List TimeUnit :=
  [nanosecond, microsecond, millisecond, second, minute, hour, day, week, month, year]

/-- The unit with a name. -/
def ofName? (name : String) : Option TimeUnit :=
  all.find? fun unit => unit.names.contains name

/-- The length of a unit in nanoseconds. -/
def nanos : TimeUnit → Nat
  | nanosecond => 1
  | microsecond => 1000
  | millisecond => 1000000
  | second => 1000000000
  | minute => 60 * 1000000000
  | hour => 3600 * 1000000000
  | day => 86400 * 1000000000
  | week => 604800 * 1000000000
  | month => 2630016 * 1000000000
  | year => 31557600 * 1000000000

/-- The step in which a unit counts, in nanoseconds: whole numbers of a unit of at least a
second are numbers of seconds, and those of a smaller one are numbers of nanoseconds. -/
def wholeStep (unit : TimeUnit) : Nat :=
  if unit.nanos < 1000000000 then 1 else 1000000000

/-- The step in which a fraction of a unit counts, in nanoseconds; a nanosecond has no
fractions. -/
def fractionStep : TimeUnit → Option Nat
  | nanosecond => none
  | microsecond | millisecond | second | minute => some 1
  | hour | day | week | month | year => some 1000000000

end TimeUnit

/-- The numbers that fit sixty-four bits. -/
def word? (n : Nat) : Option Nat :=
  if n < 2 ^ 64 then some n else none

/-- A number and a unit, as written. -/
structure Span where
  /-- The digits before the point. -/
  whole : Nat
  /-- The digits after the point as one number, and how many they are. -/
  fraction : Option (Nat × Nat)
  /-- The unit. -/
  unit : TimeUnit
deriving DecidableEq, Repr

/-- A longer duration, if its seconds and the nanoseconds to be added to the fraction of
a second fit sixty-four bits. -/
def extend? (d : Duration) (step count : Nat) : Option Duration := do
  let count ← word? count
  let _ ← if step = 1 then word? (d.subsecNanos + count) else some 0
  let sum : Duration := ⟨d.nanos + count * step⟩
  let _ ← word? sum.secs
  return sum

/-- The duration with a span added to it. -/
def addSpan? (d : Duration) (span : Span) : Option Duration := do
  let whole ← word? span.whole
  let d ← d.extend? span.unit.wholeStep (whole * (span.unit.nanos / span.unit.wholeStep))
  match span.fraction with
  | none => return d
  | some (numerator, places) =>
    let step ← span.unit.fractionStep
    let denominator ← word? (10 ^ places)
    let product ← word? ((← word? numerator) * (span.unit.nanos / step))
    if product % denominator = 0 then d.extend? step (product / denominator) else none

/-- The number written by digits at the start of a text, blanks between them skipped, how
many digits they are, and the text from the first other character on. -/
def readDigits : List Char → Nat → Nat → Nat × Nat × List Char
  | [], n, count => (n, count, [])
  | c :: rest, n, count =>
    if c.isDigit then readDigits rest (n * 10 + (c.toNat - '0'.toNat)) (count + 1)
    else if Text.isBlank c then readDigits rest n count
    else (n, count, c :: rest)

/-- The letters that unit names are made of: those of ASCII and the micro sign. -/
def isUnitLetter (c : Char) : Bool :=
  c.isAlpha || c = 'µ'

/-- The span at the start of a text that begins with a digit, and the rest, which is empty
or begins with a digit or a blank. -/
def readSpan (cs : List Char) : Option (Span × List Char) := do
  let (whole, _, rest) := readDigits cs 0 0
  let (fraction, rest) ← (match rest with
    | '.' :: after =>
      match readDigits after 0 0 with
      | (_, 0, _) => none
      | (numerator, places, rest) => some (some (numerator, places), rest)
    | rest => some (none, rest))
  let unit ← TimeUnit.ofName? (String.ofList (rest.takeWhile isUnitLetter))
  let after := rest.dropWhile isUnitLetter
  match after with
  | [] => return (⟨whole, fraction, unit⟩, [])
  | c :: _ => if c.isDigit || Text.isBlank c then return (⟨whole, fraction, unit⟩, after) else none

/-- The spans of a text; the first argument bounds their number. -/
def readSpans : Nat → List Char → Option (List Span)
  | fuel, cs =>
    match cs.dropWhile Text.isBlank with
    | [] => some []
    | c :: rest =>
      match fuel with
      | 0 => none
      | fuel + 1 =>
        if c.isDigit then
          match readSpan (c :: rest) with
          | some (span, after) => (readSpans fuel after).map (span :: ·)
          | none => none
        else none

/-- The duration that a text of spans writes; the digit zero alone needs no unit. -/
def ofSpans? (text : String) : Option Duration :=
  if text = "0" then some zero
  else
    match readSpans text.toList.length text.toList with
    | none | some [] => none
    | some spans => spans.foldlM addSpan? zero

/-- A span of a unit that is named in the singular and the plural. -/
def namedSpan (count : Nat) (name : String) : List String :=
  if count = 0 then []
  else [toString count ++ name ++ (if count = 1 then "" else "s")]

/-- A span of a unit with a fixed short name. -/
def shortSpan (count : Nat) (name : String) : List String :=
  if count = 0 then [] else [toString count ++ name]

/-- The spans of a duration, the largest unit first. -/
def spanTexts (d : Duration) : List String :=
  let yearRest := d.secs % 31557600
  let monthRest := yearRest % 2630016
  let dayRest := monthRest % 86400
  let subsec := d.subsecNanos
  namedSpan (d.secs / 31557600) "year" ++ namedSpan (yearRest / 2630016) "month"
    ++ namedSpan (monthRest / 86400) "day"
    ++ shortSpan (dayRest / 3600) "h" ++ shortSpan (dayRest % 3600 / 60) "m"
    ++ shortSpan (dayRest % 60) "s"
    ++ shortSpan (subsec / 1000000) "ms" ++ shortSpan (subsec / 1000 % 1000) "us"
    ++ shortSpan (subsec % 1000) "ns"

/-- The text of a duration as spans. -/
def spans (d : Duration) : String :=
  if d = zero then "0s" else String.intercalate " " d.spanTexts

example : ofSpans? "1 0 s 1m" = some (ofSecs 70) := by decide +kernel
example : ofSpans? "1.5h30m" = some (ofSecs 7200) := by decide +kernel
example : ofSpans? "5 " = none := by decide +kernel
example : spans (ofSecs 31566005) = "1year 2h 20m 5s" := by decide +kernel

end Soak.Duration
