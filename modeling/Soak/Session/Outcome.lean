import Soak.Session.Request
import Soak.Session.Run

/-!
# How runs end

A run fails if its set-up does, if one of its threads panics, or if containers of an
earlier run cannot be removed.  Of several panics the first thread's decides.
-/

namespace Soak

/-- Why a run has no result. -/
inductive RunError where
  /-- The set-up failed, and no thread was started. -/
  | setup (cause : SetupError)
  /-- A thread panicked. -/
  | panicked (text : String)
  /-- A container that was there before could not be removed. -/
  | cleanup (name : String) (cause : CallError)
deriving Repr

/-- The wording of an error. -/
def RunError.message : RunError → String
  | setup cause => cause.message
  | panicked text => "Worker thread panicked: " ++ text
  | cleanup name cause => "Failed to clean up container " ++ name ++ ": " ++ cause.message

/-- A run with several threads. -/
abbrev Session (α : Type) : Type 1 :=
  Run requests α

/-- How a panic is logged: what happened, and the name of the field with the thread. -/
structure PanicEvent where
  /-- What happened. -/
  message : String
  /-- The name of the field with the name of the thread, if there is such a field. -/
  threadField : Option String

/-- The values of the threads that ended well, in their order, and the error of the first
one that panicked.  Panics are logged in the order of the threads; unless they are, the
error does not name the thread. -/
def settle {β : Type} (event : Option PanicEvent) :
    List (Ended β) → Session (List β × Option RunError)
  | [] => return ([], none)
  | (_, .ok value) :: rest => do
    let (values, failure) ← settle event rest
    return (value :: values, failure)
  | (name, .error panic) :: rest => do
    let text ← (match event with
      | none => return panic
      | some e => do
        let thread := e.threadField.toList.map fun field => (field, name)
        Job.logError e.message (thread ++ [("panic", panic)])
        return name ++ ": " ++ panic : Session String)
    let (values, _) ← settle event rest
    return (values, some (.panicked text))

end Soak
