/-!
# Names

Containers and items are named from numbers, so that their owner can always tell which
names exist.  Thread names show the share of the containers that a thread works on.
-/

namespace Soak.Naming

/-- The container with a number. -/
def container (stem : String) (number : Nat) : String :=
  stem ++ toString number

/-- The item that a lifecycle worker adds as the `n`-th of a container. -/
def lifecycleItem (stem : String) (n : Int) : String :=
  stem ++ toString n

/-- An item of a container that is filled or worked on in bulk. -/
def bulkItem (container item : Nat) : String :=
  s!"item_{container}_{item}"

/-- The container of an operation of the chained benchmark. -/
def chainContainer (thread op : Nat) : String :=
  s!"chain_{thread}_{op}"

/-- The item of an operation of the chained benchmark. -/
def chainItem (thread op : Nat) : String :=
  s!"item_{thread}_{op}"

end Soak.Naming
