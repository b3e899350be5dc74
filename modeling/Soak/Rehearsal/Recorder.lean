import Soak.Rehearsal.Fault
import Soak.Session.Request
import Soak.Session.Run

/-!
# Rehearsals

A recorder answers the questions of a run from a store in memory, lets the planned calls
go wrong, and writes down every call and every event that is logged, under the name of
its thread.

Time is not real in a rehearsal: nothing takes time but waiting, and every thread has a
clock of its own, which starts with that of the main thread.  The clock of the main thread
moves to the last end of the threads that it waits for.
-/

namespace Soak

/-- How a call ended. -/
inductive CallResult where
  /-- It succeeded. -/
  | ok
  /-- It failed. -/
  | failed (error : CallError)
  /-- Its thread panicked. -/
  | panicked
deriving Repr

/-- What is written down. -/
inductive TraceEntry where
  /-- A call, the container that it was about, and how it ended. -/
  | call (call : Call) (container : String) (result : CallResult)
  /-- An event that was logged. -/
  | log (entry : Log.Entry)
deriving Repr

/-- The state of a rehearsal. -/
structure Recorder where
  /-- The store. -/
  store : Store
  /-- The rules for calls that go wrong. -/
  rules : List FaultRule
  /-- How many calls have fitted each of the rules, by thread. -/
  counts : Std.ExtTreeMap String (List Nat) compare
  /-- The container of every handle that was ever given out. -/
  handles : Std.ExtTreeMap Int String compare
  /-- The container of every search that was ever opened. -/
  searches : Std.ExtTreeMap Int String compare
  /-- The names that occurred in calls. -/
  touched : Std.ExtTreeMap String Unit compare
  /-- What was written down, the last entry first. -/
  trace : List (String × TraceEntry)
  /-- The counters. -/
  registry : Registry
  /-- The workers. -/
  statuses : List Worker.Status
  /-- The clocks of the threads. -/
  clocks : Std.ExtTreeMap String Duration compare
  /-- The date that all clocks show. -/
  date : Timestamp

namespace Recorder

/-- The name of the main thread. -/
def main : String :=
  "main"

/-- A recorder with an empty store, one counter and no workers. -/
def new (rules : List FaultRule) (date : Timestamp) : Recorder where
  store := .empty
  rules := rules
  counts := ∅
  handles := ∅
  searches := ∅
  touched := ∅
  trace := []
  registry := .new 1
  statuses := []
  clocks := ∅
  date := date

/-- What all clocks show at first: they started a day ago. -/
def firstReading : Duration :=
  .ofSecs 86400

/-- The clock of a thread. -/
def clockOf (r : Recorder) (thread : String) : Duration :=
  r.clocks.getD thread firstReading

/-- The recorder after a thread has waited. -/
def wait (r : Recorder) (thread : String) (time : Duration) : Recorder :=
  { r with clocks := r.clocks.insert thread ((r.clockOf thread).add time) }

/-- The recorder with an entry for a thread. -/
def write (r : Recorder) (thread : String) (entry : TraceEntry) : Recorder :=
  { r with trace := (thread, entry) :: r.trace }

/-- The recorder with other rules, for which no call has been counted. -/
def withRules (r : Recorder) (rules : List FaultRule) : Recorder :=
  { r with rules, counts := ∅ }

/-- What was written down, the first entry first, and a recorder that has written down
nothing. -/
def takeTrace (r : Recorder) : List (String × TraceEntry) × Recorder :=
  (r.trace.reverse, { r with trace := [] })

/-- The container of a handle: its name if the handle was given out, and the number of the
handle otherwise. -/
def nameOf (names : Std.ExtTreeMap Int String compare) (number : Int) : String :=
  names.getD number s!"#{number}"

/-- The container that a call is about. -/
def containerOf (r : Recorder) : Call → String
  | .createContainer name _ _ _ | .openContainer name _ | .deleteContainer name _ => name
  | .closeContainer h | .setMetadata h _ | .getMetadata h | .addItem h _ _ _ _
  | .getItem h _ _ _ | .deleteItem h _ _ | .updateItemValue h _ _ _ | .addAttributes h _ _ _
  | .updateAttributes h _ _ _ | .deleteAttributes h _ _ _ | .openSearch h _ _ _ =>
    nameOf r.handles h.number
  | .fetchNextResults s _ | .closeSearch s => nameOf r.searches s.number

/-- The recorder after a handle was given out by a call. -/
def remember (r : Recorder) : (c : Call) → c.Answer → Recorder
  | .openContainer name _, .ok h => { r with handles := r.handles.insert h.number name }
  | .openSearch container _ _ _, .ok s =>
    { r with searches := r.searches.insert s.number (nameOf r.handles container.number) }
  | _, _ => r

/-- The answer of a call that is answered with a value of choice; calls of the store that
answer with no value of their own are made. -/
def substitute (r : Recorder) (value : Json) : (c : Call) → c.Answer × Store
  | .getItem _ _ _ _ => (.ok value, r.store)
  | .fetchNextResults _ _ => (.ok value, r.store)
  | c => r.store.answer c

/-- The answer to a call of a thread. -/
def call (r : Recorder) (thread : String) (c : Call) : Except String c.Answer × Recorder :=
  let container := r.containerOf c
  let (effect, counts) := FaultRule.apply c container r.rules (r.counts.getD thread [])
  let r := { r with
    counts := r.counts.insert thread counts
    touched := r.touched.insert container () }
  let finish (r : Recorder) (answer : c.Answer) (store : Store) :
      Except String c.Answer × Recorder :=
    let result := match answer with
      | .ok _ => CallResult.ok
      | .error e => .failed e
    (.ok answer, ({ r with store }.remember c answer).write thread (.call c container result))
  match effect with
  | none =>
    let (answer, store) := r.store.answer c
    finish r answer store
  | some (.fail e) => finish r (.error e) r.store
  | some (.reply value) =>
    let (answer, store) := r.substitute value c
    finish r answer store
  | some (.panic message) =>
    (.error (message.getD unreadablePanic), r.write thread (.call c container .panicked))
  | some (.delay time) =>
    let (answer, store) := r.store.answer c
    finish (r.wait thread time) answer store

/-- The shortest time that a pause takes. -/
def shortestPause : Duration :=
  .ofMillis 1

/-- Whether a pause of a thread lasts beyond the clock of the main thread, and the recorder
after it.  A pause of no time never ends before. -/
def pause (r : Recorder) (thread : String) (time : Duration) : Bool × Recorder :=
  if time = .zero ∨ (r.clockOf main).nanos ≤ ((r.clockOf thread).add time).nanos then (true, r)
  else (false, r.wait thread (time.longer shortestPause))

/-- The number of iterations of a worker, and the recorder with its status replaced. -/
def record (r : Recorder) (worker nowMs : Nat) (aborted : Bool) : Nat × Recorder :=
  match r.statuses[worker]? with
  | none => (0, r)
  | some status =>
    let status := status.record nowMs aborted
    (status.iterations, { r with statuses := r.statuses.set worker status })

/-- The answer to a question of a thread. -/
def respond (r : Recorder) (thread : String) :
    (q : Request) → Except String q.Answer × Recorder
  | .call c => r.call thread c
  | .log entry => (.ok (), r.write thread (.log entry))
  | .clock => (.ok ⟨r.clockOf thread, r.date⟩, r)
  | .freshId => (.ok "rehearsal", r)
  | .enrol size workers => (.ok (), { r with registry := .new size, statuses := workers })
  | .size => (.ok r.registry.size, r)
  | .peek index => (.ok (r.registry.get index), r)
  | .readSlot view index => (.ok (r.registry.viewGet view index), r)
  | .writeSlot view index value =>
    match r.registry.viewSet view index value with
    | .ok registry => (.ok (.ok ()), { r with registry })
    | .error e => (.ok (.error e), r)
  | .statuses => (.ok r.statuses, r)
  | .record worker nowMs aborted =>
    let (count, r) := r.record worker nowMs aborted
    (.ok count, r)
  | .pause time =>
    let (ended, r) := r.pause thread time
    (.ok ended, r)

/-- The recorder after threads were forked: their clocks start with that of the main
thread. -/
def forked (names : List String) (r : Recorder) : Recorder :=
  let now := r.clockOf main
  { r with clocks := names.foldl (fun clocks name => clocks.insert name now) r.clocks }

/-- The recorder after threads have ended: the clock of the main thread has moved to the
last of their ends. -/
def joined (names : List String) (r : Recorder) : Recorder :=
  let now := names.foldl (fun now name => now.longer (r.clockOf name)) (r.clockOf main)
  { r with clocks := r.clocks.insert main now }

/-- The recorder as the host of a run. -/
def host : Host requests Recorder where
  respond thread q r := r.respond thread q
  forked := forked
  joined := joined

/-- Rehearse a run. -/
def rehearse {α : Type} (run : Run requests α) (r : Recorder) : Except String α × Recorder :=
  run.run host main r

/-- Rehearse a job on the main thread. -/
def rehearseJob {α : Type} (job : Job α) (r : Recorder) : Except String α × Recorder :=
  job.run host.toRespondent main r

end Recorder

end Soak
