import Soak.Longevity.Worker
import Soak.Session.Outcome

/-!
# Longevity runs

A longevity run removes containers that an earlier run left, lets its workers loose on
their partitions until the deadline while the monitor watches them, and removes the
containers it created.
-/

namespace Soak

namespace Longevity

/-- The result of a longevity run. -/
structure Report where
  /-- The identifier of the run. -/
  runId : String
  /-- The workers at the end. -/
  workers : List Worker.Status
  /-- The counters at the end. -/
  counters : List Int
  /-- A scan at the end. -/
  histogram : Monitor.Report
  /-- How many scans the monitor made in the meantime. -/
  monitorScans : Nat
  /-- The time from the first start of a worker to the last end. -/
  elapsed : Duration
deriving DecidableEq, Repr

/-- The iterations of all workers. -/
def Report.iterations (r : Report) : Nat :=
  (r.workers.map Worker.Status.iterations).sum

/-- Delete `count` containers from a number on that may be there; the first failure of
another kind ends it. -/
def removeLeftovers (backend : Config.Backend) : (number count : Nat) → Job (Except RunError Unit)
  | _, 0 => return .ok ()
  | number, count + 1 => do
    let name := Naming.container backend.containerPrefix number
    match ← Job.call (.deleteContainer name backend.credentials) with
    | .ok () => removeLeftovers backend (number + 1) count
    | .error e =>
      if e.meansAbsent then removeLeftovers backend (number + 1) count
      else return .error (.cleanup name e)

/-- Delete a container if that is possible. -/
def removeIfPossible (backend : Config.Backend) (number : Nat) : Job Unit := do
  let name := Naming.container backend.containerPrefix number
  let _ ← Job.call (.deleteContainer name backend.credentials)
  return ()

/-- Delete `count` containers as far as that is possible. -/
def removeCreated (backend : Config.Backend) (count : Nat) : Job Unit :=
  Program.foldRange (fun _ number => removeIfPossible backend number) 0 count ()

/-- The worker of a partition. -/
def worker (backend : Config.Backend) (c : Config.Longevity) (seeds : Seeds) (p : Partition) :
    Worker where
  number := p.index
  backend := backend
  view := p
  policy := c.policy
  rng := seeds.stream p.index

/-- The thread of a worker. -/
def thread (epoch deadline : Duration) (w : Worker) : Thread requests Nat where
  name := w.name
  program := w.run epoch deadline

/-- The partitions of the workers, if the configuration makes sense. -/
def plan (c : Config.Longevity) : Job (Except SetupError (List Partition)) :=
  match c.validate with
  | .error e => return .error e
  | .ok () => Job.split c.totalContainers c.workers

/-- Whether views of all partitions can be handed out. -/
def grantViews (registry : Registry) (partitions : List Partition) : Except SetupError Unit :=
  partitions.forM registry.checkOwned

/-- The run proper, on partitions from which all containers have been removed. -/
def runOn (backend : Config.Backend) (c : Config.Longevity) (seeds : Seeds)
    (partitions : List Partition) : Session (Except RunError Report) := do
  let runId ← Program.question (I := requests) .freshId
  Job.reserve c.totalContainers Registry.bytes
  let start ← Job.clock
  let epoch := start.elapsed
  let deadline ← Job.later epoch (c.timeLeft start.date)
  Job.reserve partitions.length Worker.bytes
  match grantViews (.new c.totalContainers) partitions with
  | .error e => return .error (.setup e)
  | .ok () =>
    let _ ← Program.question (I := requests)
      (.enrol c.totalContainers (partitions.map (Worker.Status.new · 0)))
    let monitor : Monitor := ⟨c.maxItems, c.monitor.interval, c.monitor.staleAfter, epoch⟩
    let (ended, watched) ← Run.forkWatched
      (partitions.map fun p => thread epoch deadline (worker backend c seeds p))
      [⟨"monitor", monitor.watch Worker.endless 0⟩]
    let (_, workerFailure) ← settle (some ⟨"Worker panicked", some "worker"⟩) ended
    let stop ← Job.clock
    let elapsed := stop.elapsed.sub epoch
    let (scans, monitorFailure) ← settle (some ⟨"Monitor panicked", none⟩) watched
    let failure := workerFailure.or monitorFailure
    if failure.isNone ∧ stop.elapsed.nanos < deadline.nanos then
      Job.logWarning "Workers finished before the deadline" [("elapsed", elapsed.exact)]
    let histogram ← monitor.scanNow
    let counters ← Monitor.snapshot
    let workers ← Program.question (I := requests) .statuses
    removeCreated backend c.totalContainers
    match failure with
    | some e => return .error e
    | none => return .ok ⟨runId, workers, counters, histogram, scans.sum, elapsed⟩

/-- Run to completion. -/
def run (backend : Config.Backend) (c : Config.Longevity) (seeds : Seeds) :
    Session (Except RunError Report) := do
  match ← plan c with
  | .error e => return .error (.setup e)
  | .ok partitions =>
    match ← removeLeftovers backend 0 c.totalContainers with
    | .error e => return .error e
    | .ok () => runOn backend c seeds partitions

end Longevity

end Soak
