/-!
# Programs that ask

A program is a tree: it is done with a value, it asks a question and goes on with the
answer, or it panics with a message.  What may be asked, and what kind of answer each
question has, is an interface.
The program itself does nothing else, so that the same program can be run against a store
in memory, against answers chosen at will, or step by step between the steps of others.

`Program.run` runs one program to its end.  Whoever answers may also let the program
panic.  `Program.foldRange` and `Program.mapRange` go through a range of numbers without
ever listing it.
-/

namespace Soak

/-- Questions, and the kind of answer to each. -/
structure Interface where
  /-- What may be asked. -/
  Question : Type
  /-- What is answered. -/
  Answer : Question → Type

/-- A program that asks questions of an interface and ends with a value or a panic. -/
inductive Program (I : Interface) (α : Type) : Type where
  /-- The end. -/
  | done (value : α)
  /-- A question, and how the program goes on with each answer. -/
  | ask (question : I.Question) (resume : I.Answer question → Program I α)
  /-- An end without a value. -/
  | panic (message : String)

namespace Program

variable {I : Interface} {α β : Type}

/-- Go on with the value of a program. -/
def bind (p : Program I α) (next : α → Program I β) : Program I β :=
  match p with
  | .done a => next a
  | .ask q resume => .ask q fun answer => (resume answer).bind next
  | .panic message => .panic message

instance : Monad (Program I) where
  pure := .done
  bind := bind

/-- The answer to one question. -/
def question (q : I.Question) : Program I (I.Answer q) :=
  .ask q .done

@[simp] theorem bind_done (a : α) (next : α → Program I β) :
    (done a : Program I α) >>= next = next a :=
  rfl

@[simp] theorem bind_ask (q : I.Question) (resume : I.Answer q → Program I α)
    (next : α → Program I β) : ask q resume >>= next = ask q fun answer => resume answer >>= next :=
  rfl

@[simp] theorem bind_panic (message : String) (next : α → Program I β) :
    (panic message : Program I α) >>= next = panic message :=
  rfl

theorem bind_pure (p : Program I α) : p.bind .done = p := by
  induction p with
  | done => rfl
  | ask q resume ih => simp [bind, ih]
  | panic => rfl

theorem bind_assoc {γ : Type} (p : Program I α) (f : α → Program I β) (g : β → Program I γ) :
    (p.bind f).bind g = p.bind fun a => (f a).bind g := by
  induction p with
  | done => rfl
  | ask q resume ih => simp [bind, ih]
  | panic => rfl

instance : LawfulMonad (Program I) :=
  .mk' _ bind_pure (fun _ _ => rfl) (fun p f g => bind_assoc p f g)

/-- A step for each of `count` numbers from `first` on, one after another. -/
def foldRange (step : α → Nat → Program I α) : (first count : Nat) → α → Program I α
  | _, 0, a => return a
  | first, count + 1, a => do foldRange step (first + 1) count (← step a first)

/-- The values of programs for `count` numbers from `first` on, one after another. -/
def mapRange (perform : Nat → Program I α) (first count : Nat) : Program I (List α) := do
  let values ← foldRange (fun values i => return (← perform i) :: values) first count []
  return values.reverse

theorem foldRange_eq_foldlM (step : α → Nat → Program I α) (first count : Nat) (a : α) :
    foldRange step first count a = (List.range' first count).foldlM step a := by
  induction count generalizing first a with
  | zero => rfl
  | succ count ih => simp [foldRange, List.range'_succ, ih]

theorem mapRange_eq_mapM (perform : Nat → Program I α) (first count : Nat) :
    mapRange perform first count = (List.range' first count).mapM perform := by
  simp [mapRange, foldRange_eq_foldlM, List.mapM_eq_reverse_foldlM_cons]

end Program

/-- What stands for the message of a panic that has none that can be read. -/
def unreadablePanic : String :=
  "unknown panic payload"

/-- Who answers the questions of programs, with a state of its own.  The program that asks
is told apart by the name of its thread; in place of an answer there may be the message of
a panic. -/
structure Respondent (I : Interface) (σ : Type) where
  /-- The answer to a question, and the state behind it. -/
  respond : (thread : String) → (q : I.Question) → σ → Except String (I.Answer q) × σ

namespace Program

variable {I : Interface} {α σ : Type}

/-- Run a program to its end or to its panic. -/
def run (r : Respondent I σ) (thread : String) : Program I α → σ → Except String α × σ
  | .done a, s => (.ok a, s)
  | .ask q resume, s =>
    match r.respond thread q s with
    | (.ok answer, s) => (resume answer).run r thread s
    | (.error message, s) => (.error message, s)
  | .panic message, s => (.error message, s)

end Program

end Soak
