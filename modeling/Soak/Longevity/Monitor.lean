import Soak.Config.Basic
import Soak.Session.Request

/-!
# The monitor of a longevity run

A scan reads every counter and the status of every worker, and changes nothing.  It sorts
the containers by their counters and names the workers that have been idle for too long.
A counter that is written while the scan goes on may be seen before or after the write.
A monitor panics if its interval ends later than a clock can show.
-/

namespace Soak

/-- What a scan saw. -/
structure Monitor.Report where
  /-- How many containers were never created. -/
  notCreated : Nat
  /-- How many containers have each of the regular counters, from zero. -/
  regular : List Nat
  /-- How many containers have a counter above the regular ones. -/
  irregular : Nat
  /-- The iterations of all workers. -/
  iterations : Nat
  /-- The iterations of each worker, by name, in the order of the workers. -/
  perWorker : List (String × Nat)
  /-- The names of the workers that have been idle for too long. -/
  stale : List String
deriving DecidableEq, Repr

namespace Monitor.Report

/-- How many containers the report covers. -/
def total (r : Monitor.Report) : Nat :=
  r.notCreated + r.irregular + r.regular.sum

/-- The workers that have been idle for longer than a time. -/
def staleWorkers (workers : List Worker.Status) (staleAfter : Duration) (nowMs : Nat) :
    List Worker.Status :=
  workers.filter fun w => staleAfter.nanos < (w.idleTime nowMs).nanos

/-- How many counters have each of the regular values, from zero to the highest one. -/
def histogram (maxExpected : Int) (counters : List Int) : List Nat :=
  let count (bins : Array Nat) (value : Int) : Array Nat :=
    if 0 ≤ value ∧ value ≤ maxExpected then bins.modify value.toNat (· + 1) else bins
  (counters.foldl count (Array.replicate (maxExpected.toNat + 1) 0)).toList

/-- The report on counters and workers, with the highest regular counter. -/
def ofState (maxExpected : Int) (staleAfter : Duration) (counters : List Int)
    (workers : List Worker.Status) (nowMs : Nat) : Monitor.Report where
  notCreated := counters.countP (· < 0)
  regular := histogram maxExpected counters
  irregular := counters.countP fun value => 0 ≤ value && maxExpected < value
  iterations := (workers.map Worker.Status.iterations).sum
  perWorker := workers.map fun w => (w.name, w.iterations)
  stale := (staleWorkers workers staleAfter nowMs).map Worker.Status.name

end Monitor.Report

/-- The observer of a longevity run. -/
structure Monitor where
  /-- The highest regular counter. -/
  maxExpected : Int
  /-- The time between scans. -/
  interval : Duration
  /-- How long a worker may be idle. -/
  staleAfter : Duration
  /-- When the clock of the run started. -/
  epoch : Duration
deriving DecidableEq, Repr

/-- The milliseconds since the clock of a run started. -/
def Reading.sinceMs (r : Reading) (epoch : Duration) : Nat :=
  (r.elapsed.sub epoch).millis

namespace Monitor

/-- Read any counter. -/
def peek (index : Nat) : Job (Except SetupError Int) :=
  Program.question (I := requests) (.peek index)

/-- Read all counters one after another. -/
def snapshot : Job (List Int) := do
  let size ← Program.question (I := requests) .size
  let values ← (List.range size).mapM peek
  return values.filterMap Except.toOption

/-- Log that workers have been idle for too long. -/
def warn (nowMs : Nat) : List Worker.Status → Job Unit
  | [] => return ()
  | w :: rest => do
    Job.logWarning "Worker has not reported activity"
      [("worker", w.name), ("idle_ms", toString (w.idleTime nowMs).millis)]
    warn nowMs rest

/-- Scan at a time in milliseconds. -/
def scan (m : Monitor) (nowMs : Nat) : Job Monitor.Report := do
  Job.reserve (m.maxExpected.toNat + 1) 8
  let counters ← snapshot
  let workers ← Program.question (I := requests) .statuses
  warn nowMs (Monitor.Report.staleWorkers workers m.staleAfter nowMs)
  return .ofState m.maxExpected m.staleAfter counters workers nowMs

/-- Scan now. -/
def scanNow (m : Monitor) : Job Monitor.Report := do
  let now ← Job.clock
  m.scan (now.sinceMs m.epoch)

/-- Scan after every interval until the watched threads have ended; the number of scans,
those made before included.  The first argument bounds the number of those to come; beyond it,
a monitor is lost. -/
def watch (m : Monitor) : Nat → Nat → Job Nat
  | 0, _ => .panic Job.lost
  | fuel + 1, scans => do
    let now ← Job.clock
    let _ ← Job.later now.elapsed m.interval
    let ended ← Program.question (I := requests) (.pause m.interval)
    if ended then return scans
    else
      let _ ← m.scanNow
      m.watch fuel (scans + 1)

end Monitor

end Soak
