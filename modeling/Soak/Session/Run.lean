import Soak.Session.Program

/-!
# Runs with several threads

A run asks questions of its own and forks threads, which it waits for before it goes on.
Watchers are forked along with the threads; they end once the threads have ended.  A
thread that panics ends with the message of the panic, and the run decides what follows.

`Run.run` lets the threads of a fork run one after another.  This is one of the orders in
which their steps may mix.
-/

namespace Soak

/-- A program under the name of its thread. -/
structure Thread (I : Interface) (β : Type) where
  /-- The name. -/
  name : String
  /-- The program. -/
  program : Program I β

/-- How a thread ended: with a value or with the message of a panic. -/
abbrev Ended (β : Type) : Type :=
  String × Except String β

/-- A program that may fork threads. -/
inductive Run (I : Interface) (α : Type) : Type 1 where
  /-- The end. -/
  | done (value : α)
  /-- A question, and how the run goes on with each answer. -/
  | ask (question : I.Question) (resume : I.Answer question → Run I α)
  /-- An end without a value. -/
  | panic (message : String)
  /-- Threads and watchers, and how the run goes on when all of them have ended. -/
  | fork {β γ : Type} (threads : List (Thread I β)) (watchers : List (Thread I γ))
      (resume : List (Ended β) → List (Ended γ) → Run I α)

namespace Run

variable {I : Interface} {α β γ σ : Type}

/-- Go on with the value of a run. -/
def bind (p : Run I α) (next : α → Run I β) : Run I β :=
  match p with
  | .done a => next a
  | .ask q resume => .ask q fun answer => (resume answer).bind next
  | .panic message => .panic message
  | .fork threads watchers resume =>
    .fork threads watchers fun ended watched => (resume ended watched).bind next

instance : Monad (Run I) where
  pure := .done
  bind := bind

/-- A run of one thread, the main one. -/
def ofProgram : Program I α → Run I α
  | .done a => .done a
  | .ask q resume => .ask q fun answer => ofProgram (resume answer)
  | .panic message => .panic message

instance : MonadLift (Program I) (Run I) where
  monadLift := ofProgram

/-- Fork threads and wait for them. -/
def forkAll (threads : List (Thread I β)) : Run I (List (Ended β)) :=
  .fork threads ([] : List (Thread I Unit)) fun ended _ => .done ended

/-- Fork threads with watchers and wait for them. -/
def forkWatched (threads : List (Thread I β)) (watchers : List (Thread I γ)) :
    Run I (List (Ended β) × List (Ended γ)) :=
  .fork threads watchers fun ended watched => .done (ended, watched)

end Run

/-- Who answers the questions of a run: a respondent that is told which threads are forked
and which have ended. -/
structure Host (I : Interface) (σ : Type) extends Respondent I σ where
  /-- The state after these threads were forked. -/
  forked : List String → σ → σ
  /-- The state after these threads have ended. -/
  joined : List String → σ → σ

namespace Thread

variable {I : Interface} {β σ : Type}

/-- Run threads one after another. -/
def runAll (r : Respondent I σ) : List (Thread I β) → σ → List (Ended β) × σ
  | [], s => ([], s)
  | t :: rest, s =>
    let (outcome, s) := t.program.run r t.name s
    let (others, s) := runAll r rest s
    ((t.name, outcome) :: others, s)

end Thread

namespace Run

variable {I : Interface} {α σ : Type}

/-- Run a run to its end, or to a panic of its main thread. -/
def run (h : Host I σ) (main : String) : Run I α → σ → Except String α × σ
  | .done a, s => (.ok a, s)
  | .ask q resume, s =>
    match h.respond main q s with
    | (.ok answer, s) => (resume answer).run h main s
    | (.error message, s) => (.error message, s)
  | .panic message, s => (.error message, s)
  | .fork threads watchers resume, s =>
    let s := h.forked (threads.map Thread.name ++ watchers.map Thread.name) s
    let (ended, s) := Thread.runAll h.toRespondent threads s
    let s := h.joined (threads.map Thread.name) s
    let (watched, s) := Thread.runAll h.toRespondent watchers s
    (resume ended watched).run h main s

end Run

end Soak
