import Mathlib.Tactic.Common
import Soak.Session.Outcome

/-!
# What there is memory for

A reservation either succeeds or ends the thread that makes it.  Containers that can be shared
out are so if there is memory for the list of the partitions.
-/

namespace Soak

namespace Job

variable {count bytes total workers : Nat} {parts : List Partition} {e : SetupError}

/-- Memory that a block can have is reserved. -/
lemma reserve_of_le (h : count * bytes ≤ maxBytes) : reserve count bytes = pure () :=
  if_pos h

/-- Nobody gets more memory than a block can have. -/
lemma reserve_of_lt (h : maxBytes < count * bytes) :
    reserve count bytes = .panic "capacity overflow" :=
  if_neg (Nat.not_le.2 h)

lemma reserve_cases (count bytes : Nat) :
    reserve count bytes = pure () ∨ reserve count bytes = .panic "capacity overflow" :=
  (Nat.lt_or_ge maxBytes (count * bytes)).symm.imp reserve_of_le reserve_of_lt

/-- A clock can show a time that comes soon enough. -/
lemma later_of_le {start time : Duration} (h : (start.add time).secs ≤ maxSeconds) :
    later start time = pure (start.add time) :=
  if_pos h

lemma split_of_error (h : Partition.split total workers = .error e) :
    split total workers = pure (.error e) := by
  unfold Partition.split at h
  unfold split
  cases hcheck : Partition.checkEven total workers with
  | error e' =>
    rw [hcheck] at h
    cases h
    rfl
  | ok u =>
    rw [hcheck] at h
    cases h

/-- What can be shared out is listed in memory. -/
lemma split_of_ok (h : Partition.split total workers = .ok parts) :
    split total workers = do
      reserve workers Partition.bytes
      return .ok parts := by
  unfold split
  rw [← h]
  unfold Partition.split at h
  cases hcheck : Partition.checkEven total workers with
  | error e =>
    rw [hcheck] at h
    cases h
  | ok u => rfl

/-- With memory for the partitions, containers are shared out. -/
lemma split_of_le (h : Partition.split total workers = .ok parts)
    (hmemory : workers * Partition.bytes ≤ maxBytes) : split total workers = pure (.ok parts) := by
  rw [split_of_ok h, reserve_of_le hmemory]
  rfl

/-- Without it, they are not. -/
lemma split_of_lt (h : Partition.split total workers = .ok parts)
    (hmemory : maxBytes < workers * Partition.bytes) :
    split total workers = .panic "capacity overflow" := by
  rw [split_of_ok h, reserve_of_lt hmemory]
  rfl

lemma split_cases (total workers : Nat) :
    split total workers = pure (Partition.split total workers) ∨
      split total workers = .panic "capacity overflow" := by
  cases h : Partition.split total workers with
  | error e => exact .inl (split_of_error h)
  | ok parts => exact (Nat.lt_or_ge _ _).symm.imp (split_of_le h) (split_of_lt h)

end Job

namespace Run

variable {α β : Type} {next : β → Session α}

/-- What is known already is not asked for. -/
lemma pure_then (b : β) : (liftM (pure b : Job β) >>= next : Session α) = next b :=
  rfl

/-- A panic of the main thread ends the run. -/
lemma panic_then (message : String) :
    (liftM (Program.panic message : Job β) >>= next : Session α) = .panic message :=
  rfl

end Run

end Soak
