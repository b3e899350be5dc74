import Soak.Command.Console
import Soak.Command.Execute
import Soak.Store.Basic
import Std.Time.DateTime.PlainDateTime
import Std.Time.DateTime.Timestamp

/-!
# The program

The command line against a store in memory, with real threads and a real clock.  What a
run asks is answered from state that its threads share; each answer is one atomic step.
-/

namespace Soak

/-- What the threads of the program share. -/
structure Machine where
  /-- The store. -/
  store : IO.Ref Store
  /-- The counters. -/
  registry : IO.Ref Registry
  /-- The workers. -/
  statuses : IO.Ref (List Worker.Status)
  /-- Whether the threads that are watched have ended. -/
  ended : IO.Ref Bool
  /-- Which events are logged. -/
  filter : String
  /-- The form of log lines. -/
  format : Log.Format

namespace Machine

/-- A machine with an empty store. -/
def new (filter : String) (format : Log.Format) : IO Machine := do
  return ⟨← IO.mkRef .empty, ← IO.mkRef (.new 0), ← IO.mkRef [], ← IO.mkRef false, filter, format⟩

/-- What the clock shows. -/
def clock : IO Reading := do
  let elapsed ← IO.monoNanosNow
  let now ← Std.Time.Timestamp.now
  let t := Std.Time.PlainDateTime.ofWallTime (.ofNanoseconds now.toNanosecondsSinceUnixEpoch)
  return ⟨⟨elapsed⟩, ⟨t.date.year, t.date.month.val.toNat, t.date.day.val.toNat,
    t.time.hour.val.toNat, t.time.minute.val.toNat, t.time.second.val.toNat,
    t.time.nanosecond.val.toNat⟩⟩

/-- Wait for a number of milliseconds or for the end of the watched threads; whether it has
come. -/
def rest (m : Machine) : Nat → IO Bool
  | 0 => m.ended.get
  | n + 1 => do
    if ← m.ended.get then return true
    else
      IO.sleep 1
      m.rest n

/-- The number of iterations of a worker, and the statuses with one more. -/
def recorded (worker nowMs : Nat) (aborted : Bool) (statuses : List Worker.Status) :
    Nat × List Worker.Status :=
  match statuses[worker]? with
  | none => (0, statuses)
  | some status =>
    let status := status.record nowMs aborted
    (status.iterations, statuses.set worker status)

/-- The answer to a question of a thread. -/
def answer (m : Machine) (thread : String) : (q : Request) → IO q.Answer
  | .call c => m.store.modifyGet fun s => s.answer c
  | .log entry => do
    if Command.passes m.filter entry.severity then
      IO.eprintln (Command.logText m.format thread entry)
  | .clock => clock
  | .freshId => do return Command.identifier (← IO.getRandomBytes 16).toList
  | .enrol size workers => do
    m.registry.set (.new size)
    m.statuses.set workers
  | .size => do return (← m.registry.get).size
  | .peek index => do return (← m.registry.get).get index
  | .readSlot view index => do return (← m.registry.get).viewGet view index
  | .writeSlot view index value =>
    m.registry.modifyGet fun r =>
      match r.viewSet view index value with
      | .ok r => (.ok (), r)
      | .error e => (.error e, r)
  | .statuses => m.statuses.get
  | .record worker nowMs aborted => m.statuses.modifyGet (recorded worker nowMs aborted)
  | .pause time => m.rest time.millis

/-- Perform a program under the name of its thread. -/
def perform {α : Type} (m : Machine) (thread : String) : Job α → IO α
  | .done a => return a
  | .ask q resume => do m.perform thread (resume (← m.answer thread q))
  | .panic message => throw (.userError message)

/-- Start a thread. -/
def start {β : Type} (m : Machine) (t : Thread requests β) :
    IO (String × Task (Except IO.Error β)) := do
  return (t.name, ← IO.asTask (m.perform t.name t.program) Task.Priority.dedicated)

/-- Wait for a thread. -/
def finish {β : Type} (t : String × Task (Except IO.Error β)) : IO (Ended β) := do
  match ← IO.wait t.2 with
  | .ok value => return (t.1, .ok value)
  | .error e => return (t.1, .error (toString e))

/-- Perform a run to its end, or to a panic of the main thread. -/
def performRun {α : Type} (m : Machine) : Run requests α → IO (Except String α)
  | .done a => return .ok a
  | .ask q resume => do m.performRun (resume (← m.answer "main" q))
  | .panic message => return .error message
  | .fork threads watchers resume => do
    m.ended.set false
    let threads ← threads.mapM m.start
    let watchers ← watchers.mapM m.start
    let ended ← threads.mapM finish
    m.ended.set true
    let watched ← watchers.mapM finish
    m.performRun (resume ended watched)

end Machine

/-- The text of a file. -/
def readText (path : String) : IO (Except Command.FileFault String) := do
  try
    return .ok (← IO.FS.readFile ⟨path⟩)
  catch
    | .noFileOrDirectory .. => return .error .missing
    | e => return .error (.other (toString e))

/-- The seed of a configuration, or a random one. -/
def masterSeed (c : Config) : IO Seeds := do
  match c.seed with
  | some n => return ⟨UInt64.ofNat n⟩
  | none =>
    let bytes ← IO.getRandomBytes 8
    return ⟨bytes.toList.foldl (fun seed byte => seed <<< 8 ||| byte.toUInt64) 0⟩

/-- The code that the program ends with when its main thread panics. -/
def panicCode : UInt32 :=
  101

/-- Do what the arguments ask for; the code that the program ends with. -/
def runProgram (invocation : Command.Invocation) : IO UInt32 := do
  let fail (message : String) : IO UInt32 := do
    IO.eprintln (Command.errorLine message)
    return 1
  let file ← readText (invocation.globals.config.getD "")
  match invocation.load fun _ => file with
  | .error e => fail e.message
  | .ok config =>
    let environment ← IO.getEnv "SOAK_LOG"
    let m ← Machine.new (config.logging.filter invocation.globals.verbose environment)
      config.logging.format
    match ← m.performRun (invocation.subcommand.run config (← masterSeed config)) with
    | .error panic =>
      IO.eprintln panic
      return panicCode
    | .ok (.error e) => fail e.message
    | .ok (.ok lines) =>
      lines.forM IO.println
      return 0

end Soak

/-- The program. -/
def main (arguments : List String) : IO UInt32 := do
  match Soak.Command.Invocation.parse arguments with
  | .error .help =>
    Soak.Command.usage.forM IO.println
    return 0
  | .error .invalid =>
    Soak.Command.usage.forM IO.eprintln
    return 2
  | .ok invocation => Soak.runProgram invocation
