import Soak.Number.Instances

/-!
# Durations

A duration is a number of nanoseconds.  `Duration.exact` writes it in the largest of the
units second, millisecond, microsecond and nanosecond that it reaches, as an exact
decimal.
-/

namespace Soak

/-- A length of time in whole nanoseconds. -/
structure Duration where
  /-- The number of nanoseconds. -/
  nanos : Nat
deriving DecidableEq, Repr, Inhabited

namespace Duration

/-- No time at all. -/
def zero : Duration :=
  ⟨0⟩

/-- A number of seconds and nanoseconds. -/
def ofParts (secs nanos : Nat) : Duration :=
  ⟨secs * 1000000000 + nanos⟩

/-- A number of seconds. -/
def ofSecs (secs : Nat) : Duration :=
  ofParts secs 0

/-- A number of milliseconds. -/
def ofMillis (millis : Nat) : Duration :=
  ⟨millis * 1000000⟩

/-- The whole seconds. -/
def secs (d : Duration) : Nat :=
  d.nanos / 1000000000

/-- The nanoseconds beyond the whole seconds. -/
def subsecNanos (d : Duration) : Nat :=
  d.nanos % 1000000000

/-- The whole milliseconds. -/
def millis (d : Duration) : Nat :=
  d.nanos / 1000000

/-- The two durations one after the other. -/
def add (d e : Duration) : Duration :=
  ⟨d.nanos + e.nanos⟩

/-- The time from `e` to `d`, zero if `e` is later. -/
def sub (d e : Duration) : Duration :=
  ⟨d.nanos - e.nanos⟩

/-- The longer of two durations. -/
def longer (d e : Duration) : Duration :=
  ⟨max d.nanos e.nanos⟩

@[simp] theorem ofParts_secs_subsecNanos (d : Duration) : ofParts d.secs d.subsecNanos = d := by
  cases d
  simp only [ofParts, secs, subsecNanos, mk.injEq]
  omega

theorem subsecNanos_lt (d : Duration) : d.subsecNanos < 1000000000 :=
  Nat.mod_lt _ (by decide)

/-- A fraction in units of `10 ^ -places`, with its point and without zeros at its end;
nothing if it is zero. -/
def fractionText (places value : Nat) : String :=
  if value = 0 then ""
  else
    let digits := Nat.toDigits 10 value
    let padded := List.replicate (places - digits.length) '0' ++ digits
    "." ++ String.ofList ((padded.reverse.dropWhile (· = '0')).reverse)

/-- The text with an exact decimal and one unit. -/
def exact (d : Duration) : String :=
  let inUnit (places : Nat) (unit : String) : String :=
    toString (d.nanos / 10 ^ places) ++ fractionText places (d.nanos % 10 ^ places) ++ unit
  if 10 ^ 9 ≤ d.nanos then inUnit 9 "s"
  else if 10 ^ 6 ≤ d.nanos then inUnit 6 "ms"
  else if 10 ^ 3 ≤ d.nanos then inUnit 3 "µs"
  else inUnit 0 "ns"

example : exact (ofMillis 61500) = "61.5s" := by decide +kernel
example : exact ⟨1000001⟩ = "1.000001ms" := by decide +kernel
example : exact zero = "0ns" := by decide +kernel

end Duration

end Soak
