import Soak.Load.Execute
import Soak.Session.Outcome
import Soak.Summary

/-!
# Load runs

A load run performs one action on all of its containers, which are numbered from one and
shared out among its threads, and times the action on each of them.  Containers are opened
before an action that works on open ones and closed after it; that is not timed, and
neither of the two calls counts as an operation.
-/

namespace Soak

namespace Load

/-- The length of the value that items are written with. -/
def valueLength : Nat :=
  20

/-- The timed spans of a thread, and its calls. -/
structure Share where
  /-- The spans, one for each container that the action was performed on. -/
  spans : List Duration := []
  /-- The calls. -/
  tally : Tally := {}
deriving DecidableEq, Repr

/-- Perform an action on a container and time it. -/
def perform (c : LoadContext) (action : Action) (target : Target) : Job Share := do
  let (tally, span) ← Job.timed (action.execute c target)
  return ⟨[span], tally⟩

/-- Perform an action on the container with a number, opened for it if need be. -/
def container (c : LoadContext) (action : Action) (number : Nat) : Job Share := do
  let name := Naming.container c.backend.containerPrefix number
  if action.needsOpening then
    match ← Job.call (.openContainer name c.backend.credentials) with
    | .error e =>
      Job.logError "Container not opened, skipping" [("container", name), ("error", e.message)]
      return ⟨[], ⟨0, 1⟩⟩
    | .ok handle =>
      let share ← perform c action ⟨number, name, some handle⟩
      match ← Job.call (.closeContainer handle) with
      | .error e =>
        Job.logError "Container not closed" [("container", name), ("error", e.message)]
        return { share with tally := share.tally.add ⟨0, 1⟩ }
      | .ok () => return share
  else perform c action ⟨number, name, none⟩

/-- Several shares as one. -/
def Share.join (shares : List Share) : Share :=
  ⟨(shares.map Share.spans).flatten, .sum (shares.map Share.tally)⟩

/-- Perform an action on `count` containers from the number `first` on, with memory for as
many spans. -/
def containers (c : LoadContext) (action : Action) (first count : Nat) : Job Share := do
  Job.reserveSpans count
  return .join (← Program.mapRange (container c action) first count)

/-- The thread of a partition, whose containers are numbered from one. -/
def thread (backend : Config.Backend) (seeds : Seeds) (payload : Payload) (items : Nat)
    (action : Action) (p : Partition) : Thread requests Share where
  name := "load_" ++ p.text
  program :=
    let value := ((seeds.stream p.index).alphanumeric valueLength).1
    containers ⟨backend, payload, items, value⟩ action (p.min + 1) p.size

/-- The threads of a load run, if the containers can be shared out and the payload makes
sense. -/
def plan (backend : Config.Backend) (seeds : Seeds) (threads total items : Nat)
    (payload : String) (action : Action) :
    Job (Except SetupError (List (Thread requests Share))) := do
  match ← Job.split total threads with
  | .error e => return .error e
  | .ok partitions =>
    match Payload.parse action payload with
    | .error e => return .error e
    | .ok payload => return .ok (partitions.map (thread backend seeds payload items action))

/-- Perform an action on `total` containers with a number of threads. -/
def run (backend : Config.Backend) (seeds : Seeds) (threads total items : Nat)
    (payload : String) (action : Action) : Session (Except RunError Summary) := do
  match ← plan backend seeds threads total items payload action with
  | .error e => return .error (.setup e)
  | .ok tasks =>
    let start ← Job.clock
    Job.reserve threads Job.namedHandleBytes
    let ended ← Run.forkAll tasks
    let (shares, failure) ← settle (some ⟨"Load thread panicked", some "thread"⟩) ended
    let stop ← Job.clock
    match failure with
    | some e => return .error e
    | none =>
      let runId ← Program.question (I := requests) .freshId
      let tally := Tally.sum (shares.map Share.tally)
      return .ok (.combine action.name runId start.date (shares.map Share.spans)
        (stop.elapsed.sub start.elapsed) total items tally.operations tally.failures)

end Load

end Soak
