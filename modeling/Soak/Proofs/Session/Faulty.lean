import Soak.Proofs.Session.World
import Soak.Proofs.Store.Contents

/-!
# A store whose calls fail at times

The store in memory with several clients, where any call may also fail without any effect:
with which error, when, and how often, is left open.  What failed is written down for each
client.
-/

namespace Soak

/-- A shared store, and the calls of each client that failed, the latest first. -/
structure Faulty (ι : Type) where
  /-- The store and what its clients are in the middle of. -/
  shared : Shared ι
  /-- The calls that failed without effect. -/
  failures : ι → List Call

namespace Faulty

variable {ι : Type} [DecidableEq ι]

/-- A store of which no call has failed. -/
def start (s : Store) : Faulty ι :=
  ⟨.start s, fun _ => []⟩

/-- What may happen while a client waits: it takes a number. -/
inductive Prepares (i : ι) (call : Call) : Faulty ι → Faulty ι → Prop
  /-- A number is taken. -/
  | took {s : Faulty ι} {t : Shared ι} {number : Int}
      (step : s.shared.Step (.took i call number) t) : Prepares i call s { s with shared := t }

/-- How a call may be answered. -/
inductive Answers (i : ι) (call : Call) : call.Answer → Faulty ι → Faulty ι → Prop
  /-- The store answers. -/
  | answered {s : Faulty ι} {t : Shared ι} {a : call.Answer}
      (step : s.shared.Step (.answered i call a) t) : Answers i call a s { s with shared := t }
  /-- The call fails before it has done anything. -/
  | failed {s : Faulty ι} (free : s.shared.pending i = none) (e : CallError) :
      Answers i call (.error e) s
        { s with failures := Function.update s.failures i (call :: s.failures i) }

/-- The store as a service. -/
def service (ι : Type) [DecidableEq ι] : Service ι (Faulty ι) :=
  ⟨Prepares, Answers⟩

end Faulty

end Soak
