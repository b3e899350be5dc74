import Soak.Number.Fixed
import Soak.Number.Shortest
import Soak.Time.Timestamp

/-!
# Summaries of timed runs

A summary combines the spans that the threads of a run were timed for.  The throughput is
an estimate from the size of the run and the time it took.
-/

namespace Soak

/-- The throughput of a number of entities with a number of items each, per second.  A
count of zero is taken as one, and no time at all as one second. -/
def throughput (entities items : Nat) (wallClock : Duration) : Binary64 :=
  let seconds : Binary64 :=
    if wallClock = .zero then .ofNat 1
    else (Binary64.ofNat wallClock.secs).add ((Binary64.ofNat wallClock.subsecNanos).div
      (.ofNat 1000000000))
  ((Binary64.ofNat (max entities 1)).mul (.ofNat (max items 1))).div seconds

/-- The results of a timed run. -/
structure Summary where
  /-- What was timed. -/
  label : String
  /-- The identifier of the run. -/
  runId : String
  /-- When the run started. -/
  startedAt : Timestamp
  /-- How many spans were timed in all threads. -/
  spans : Nat
  /-- How many calls were made within the spans. -/
  operations : Nat
  /-- The longest span. -/
  max : Duration
  /-- All spans together. -/
  sum : Duration
  /-- The time from the first start of a thread to the last end. -/
  wallClock : Duration
  /-- The estimated throughput per second. -/
  throughput : Binary64
  /-- How many calls failed. -/
  failures : Nat
deriving DecidableEq, Repr

namespace Summary

/-- The longest of some spans; no time at all if there are none. -/
def longest (spans : List Duration) : Duration :=
  spans.foldl Duration.longer .zero

/-- Some spans together. -/
def total (spans : List Duration) : Duration :=
  spans.foldl Duration.add .zero

/-- Combine the spans of the threads of a run. -/
def combine (label runId : String) (startedAt : Timestamp) (perThread : List (List Duration))
    (wallClock : Duration) (entities items operations failures : Nat) : Summary where
  label := label
  runId := runId
  startedAt := startedAt
  spans := perThread.flatten.length
  operations := operations
  max := longest perThread.flatten
  sum := total perThread.flatten
  wallClock := wallClock
  throughput := Soak.throughput entities items wallClock
  failures := failures

/-- The mean span, rounded down to a nanosecond; no time at all if there are no spans or
more than 32 bits can count. -/
def mean (s : Summary) : Duration :=
  if s.spans = 0 ∨ 2 ^ 32 ≤ s.spans then .zero else ⟨s.sum.nanos / s.spans⟩

/-- The lines of a summary. -/
def lines (s : Summary) : List String :=
  ["================ " ++ s.label ++ " ================",
    "Run Id:                  " ++ s.runId,
    "Started At:              " ++ s.startedAt.toOffset,
    "Max Execution Time:      " ++ s.max.exact,
    "Operations Executed:     " ++ toString s.operations,
    "Timed Spans:             " ++ toString s.spans,
    "Sum of Execution Times:  " ++ s.sum.exact,
    "Total Duration:          " ++ s.wallClock.exact,
    "Approx TPS:              " ++ s.throughput.fixed 2,
    "Failures:                " ++ toString s.failures]

/-- The text of a summary. -/
def text (s : Summary) : String :=
  String.intercalate "\n" s.lines

end Summary

end Soak
