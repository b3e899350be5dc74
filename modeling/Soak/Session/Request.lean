import Soak.Registry
import Soak.Session.WorkerStatus
import Soak.Session.Program
import Soak.Store.Call
import Soak.Time.Timestamp

/-!
# What the threads of a run ask

Threads call the store, read and write the counters of their containers, keep their own
status, read the clock, and log what goes wrong.  All of it goes through questions of one
interface, so that a run is the same program whatever answers it.

A thread panics if it reserves more memory than a block can have, or if it looks further
ahead than a clock can show.  Memory is reserved ahead for lists whose length is known when
they are begun, and for texts.  A list that grows as its entries come is never longer than
what there is memory for.
-/

namespace Soak

/-- How grave an event is. -/
inductive Severity where
  /-- Something looks wrong. -/
  | warning
  /-- Something is wrong. -/
  | error
deriving DecidableEq, Repr

/-- The word for it. -/
def Severity.text : Severity → String
  | warning => "WARN"
  | error => "ERROR"

/-- An event that is logged. -/
structure Log.Entry where
  /-- How grave it is. -/
  severity : Severity
  /-- What happened. -/
  message : String
  /-- The circumstances, by name. -/
  fields : List (String × String)
deriving DecidableEq, Repr

/-- What a clock shows. -/
structure Reading where
  /-- The time since some fixed start. -/
  elapsed : Duration
  /-- The date and time. -/
  date : Timestamp
deriving DecidableEq, Repr

/-- What a thread may ask. -/
inductive Request where
  /-- A call of the store. -/
  | call (call : Call)
  /-- Log an event. -/
  | log (entry : Log.Entry)
  /-- Read the clock. -/
  | clock
  /-- An identifier that no other run has. -/
  | freshId
  /-- Start over with counters for containers that do not exist and with these workers. -/
  | enrol (size : Nat) (workers : List Worker.Status)
  /-- How many counters there are. -/
  | size
  /-- Read any counter. -/
  | peek (index : Nat)
  /-- Read a counter through the view of a partition. -/
  | readSlot (view : Partition) (index : Nat)
  /-- Write a counter through the view of a partition. -/
  | writeSlot (view : Partition) (index : Nat) (value : Int)
  /-- The status of every worker. -/
  | statuses
  /-- Record an iteration of a worker that ended at a time in milliseconds. -/
  | record (worker : Nat) (nowMs : Nat) (aborted : Bool)
  /-- Wait, but not beyond the end of the threads that are watched; tells whether it has
  come. -/
  | pause (time : Duration)
deriving Repr

/-- What is answered. -/
abbrev Request.Answer : Request → Type
  | call c => c.Answer
  | log _ => Unit
  | clock => Reading
  | freshId => String
  | enrol _ _ => Unit
  | size => Nat
  | peek _ => Except SetupError Int
  | readSlot _ _ => Except SetupError Int
  | writeSlot _ _ _ => Except SetupError Unit
  | statuses => List Worker.Status
  | record _ _ _ => Nat
  | pause _ => Bool

/-- The interface of the threads of a run. -/
abbrev requests : Interface :=
  ⟨Request, Request.Answer⟩

/-- A thread of a run. -/
abbrev Job (α : Type) : Type :=
  Program requests α

namespace Job

/-- Call the store. -/
def call (c : Call) : Job c.Answer :=
  Program.question (I := requests) (.call c)

/-- Log an event. -/
def log (entry : Log.Entry) : Job Unit :=
  Program.question (I := requests) (.log entry)

/-- Log that something is wrong. -/
def logError (message : String) (fields : List (String × String)) : Job Unit :=
  log ⟨.error, message, fields⟩

/-- Log that something looks wrong. -/
def logWarning (message : String) (fields : List (String × String)) : Job Unit :=
  log ⟨.warning, message, fields⟩

/-- Read the clock. -/
def clock : Job Reading :=
  Program.question (I := requests) .clock

/-- The largest number of bytes that a block of memory can have. -/
def maxBytes : Nat :=
  2 ^ 63 - 1

/-- Reserve memory for `count` values that take `bytes` bytes each. -/
def reserve (count bytes : Nat) : Job Unit :=
  if count * bytes ≤ maxBytes then return () else .panic "capacity overflow"

/-- Reserve memory for timed spans, which take two words each. -/
def reserveSpans (count : Nat) : Job Unit :=
  reserve count 16

/-- Share out containers among workers, with memory for the list of the partitions. -/
def split (total workers : Nat) : Job (Except SetupError (List Partition)) :=
  match Partition.checkEven total workers with
  | .error e => return .error e
  | .ok () => do
    reserve workers Partition.bytes
    return Partition.split total workers

/-- The bytes that a handle of a thread takes, three words. -/
def handleBytes : Nat :=
  24

/-- The bytes that the name of a thread takes with its handle, six words. -/
def namedHandleBytes : Nat :=
  48

/-- The largest number of whole seconds that a clock can show. -/
def maxSeconds : Nat :=
  2 ^ 63 - 1

/-- What a clock shows when some time has passed since it showed `start`. -/
def later (start time : Duration) : Job Duration :=
  if (start.add time).secs ≤ maxSeconds then return start.add time
  else .panic "overflow when adding duration to instant"

/-- What stands for the message of a thread that goes round in a loop more often than a word
counts.  It is not followed any further: whether it ever leaves the loop is not known. -/
def lost : String :=
  "lost in a loop"

/-- The time that a thread takes for something, with its value. -/
def timed {α : Type} (job : Job α) : Job (α × Duration) := do
  let start ← clock
  let value ← job
  let stop ← clock
  return (value, stop.elapsed.sub start.elapsed)

end Job

end Soak
