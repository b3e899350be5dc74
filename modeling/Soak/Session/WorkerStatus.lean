import Soak.Partition
import Soak.Time.Duration

/-!
# The status of a worker

Each worker of a longevity run keeps a record of how far it has come, which the monitor
reads.  Times are milliseconds on the clock of the run.
-/

namespace Soak

/-- How far a worker has come. -/
structure Worker.Status where
  /-- The containers that the worker owns. -/
  partition : Partition
  /-- How many iterations it has run, aborted ones included. -/
  iterations : Nat
  /-- How many of them were aborted. -/
  aborted : Nat
  /-- When it was last active. -/
  lastSeenMs : Nat
deriving DecidableEq, Repr, Inhabited

namespace Worker.Status

/-- A worker that has not begun. -/
def new (partition : Partition) (nowMs : Nat) : Worker.Status :=
  ⟨partition, 0, 0, nowMs⟩

/-- The name of the worker, which is also that of its thread. -/
def name (w : Worker.Status) : String :=
  "Containers_" ++ w.partition.text

/-- The status after a sign of life. -/
def touch (w : Worker.Status) (nowMs : Nat) : Worker.Status :=
  { w with lastSeenMs := nowMs }

/-- The status after an iteration. -/
def record (w : Worker.Status) (nowMs : Nat) (aborted : Bool) : Worker.Status :=
  { w.touch nowMs with
    iterations := w.iterations + 1
    aborted := w.aborted + if aborted then 1 else 0 }

/-- How long the worker has been idle; not at all if it was last active in the future. -/
def idleTime (w : Worker.Status) (nowMs : Nat) : Duration :=
  .ofMillis (nowMs - w.lastSeenMs)

end Worker.Status

end Soak
