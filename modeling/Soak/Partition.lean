import Soak.SetupError

/-!
# Sharing out the containers

The containers `0` to `total - 1` are shared out in contiguous ranges of the same length,
one for each worker, so that no two workers ever touch the same container.
-/

namespace Soak

/-- A range of container numbers, both ends included. -/
structure Partition where
  /-- The place among its siblings. -/
  index : Nat
  /-- The lowest number. -/
  min : Nat
  /-- The highest number. -/
  max : Nat
deriving DecidableEq, Repr, Inhabited

namespace Partition

/-- The bytes that a partition takes, three words. -/
def bytes : Nat :=
  24

/-- The partition with these ends, if they are in order. -/
def new? (index min max : Nat) : Option Partition :=
  if min ≤ max then some ⟨index, min, max⟩ else none

/-- How many numbers a partition has whose ends are in order. -/
def size (p : Partition) : Nat :=
  p.max + 1 - p.min

/-- Whether a number belongs to the partition. -/
def contains (p : Partition) (number : Nat) : Bool :=
  p.min ≤ number && number ≤ p.max

/-- The numbers of the partition. -/
def ids (p : Partition) : List Nat :=
  List.range' p.min p.size

/-- The first numbers of the partition, `count` of them if it has so many. -/
def firstIds (p : Partition) (count : Nat) : List Nat :=
  List.range' p.min (Nat.min count p.size)

/-- The range as text. -/
def text (p : Partition) : String :=
  s!"{p.min}-{p.max}"

/-- Whether `total` containers can be shared out evenly among `workers`. -/
def checkEven (total workers : Nat) : Except SetupError Unit :=
  if workers = 0 then .error .zeroWorkers
  else if total = 0 ∨ total % workers ≠ 0 then .error (.unevenSplit total workers)
  else .ok ()

/-- The partition of one of several workers that have `share` containers each. -/
def ofShare (share worker : Nat) : Partition :=
  ⟨worker, worker * share, (worker + 1) * share - 1⟩

/-- The partitions of `total` containers, one for each of the workers.  A run lists them with
`Job.split`, which needs memory for the list. -/
def split (total workers : Nat) : Except SetupError (List Partition) :=
  match checkEven total workers with
  | .error e => .error e
  | .ok () => .ok ((List.range workers).map (ofShare (total / workers)))

end Partition

end Soak
