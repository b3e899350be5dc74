import Soak.Partition

/-!
# The counters of a longevity run

One counter for each container: `-1` until the container is created, and then the number
of items its owner believes to be in it.  The monitor may read every counter; a worker
reads and writes through a view of its own partition.
-/

namespace Soak

/-- The counters of all containers, by container number. -/
structure Registry where
  /-- The counters. -/
  counters : Array Int
deriving DecidableEq, Repr, Inhabited

namespace Registry

/-- The counter of a container that was never created. -/
def absent : Int :=
  -1

/-- The bytes that a counter takes, one word. -/
def bytes : Nat :=
  8

/-- Counters for containers none of which exists.  A run reserves the memory for them before it
begins to use them. -/
def new (size : Nat) : Registry :=
  ⟨Array.replicate size absent⟩

/-- How many counters there are. -/
def size (r : Registry) : Nat :=
  r.counters.size

/-- The counter of a container. -/
def get (r : Registry) (index : Nat) : Except SetupError Int :=
  match r.counters[index]? with
  | some value => .ok value
  | none => .error (.indexOutOfRange index r.size)

/-- The registry with another counter for a container. -/
def set (r : Registry) (index : Nat) (value : Int) : Except SetupError Registry :=
  if index < r.size then .ok ⟨r.counters.setIfInBounds index value⟩
  else .error (.indexOutOfRange index r.size)

/-- Whether a view of the partition can be handed out. -/
def checkOwned (r : Registry) (p : Partition) : Except SetupError Unit :=
  if r.size ≤ p.max then .error (.indexOutOfRange p.max r.size) else .ok ()

/-- Whether the view of a partition covers a container. -/
def checkView (p : Partition) (index : Nat) : Except SetupError Unit :=
  if p.contains index then .ok () else .error (.notOwned index p.min p.max)

/-- A counter read through the view of a partition. -/
def viewGet (r : Registry) (p : Partition) (index : Nat) : Except SetupError Int :=
  match checkView p index with
  | .ok () => r.get index
  | .error e => .error e

/-- A counter written through the view of a partition. -/
def viewSet (r : Registry) (p : Partition) (index : Nat) (value : Int) :
    Except SetupError Registry :=
  match checkView p index with
  | .ok () => r.set index value
  | .error e => .error e

end Registry

end Soak
