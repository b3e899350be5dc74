import Soak.Config.Basic
import Soak.Naming
import Soak.Session.Outcome

/-!
# Bulk population

Containers are created and filled with items.  The first items of every container have
the values of the attribute template, so that a search for them finds a known share; the
others have random values under the same names.
-/

namespace Soak

namespace Populate

/-- How many items of a container have the values of the template. -/
def customItems (items percent : Nat) : Nat :=
  items * percent / 100

/-- Random values for names, drawn in the order of the names. -/
def randomValues (length : Nat) : List String → Generator → List (String × String) × Generator
  | [], g => ([], g)
  | name :: rest, g =>
    let (value, g) := g.alphanumeric length
    let (others, g) := randomValues length rest g
    ((name, value) :: others, g)

/-- The attributes of an item of a container, counted from one. -/
def attributesOf (template : Attributes) (item custom length : Nat) (g : Generator) :
    Attributes × Generator :=
  if item ≤ custom then (template, g)
  else
    let (pairs, g) := randomValues length template.keys g
    (.ofPairs pairs, g)

/-- What a population achieved. -/
structure Report where
  /-- How many containers were created. -/
  containersCreated : Nat := 0
  /-- How many items were added. -/
  itemsAdded : Nat := 0
  /-- How many calls failed. -/
  failures : Nat := 0
deriving DecidableEq, Repr

/-- Both reports together. -/
def Report.add (r s : Report) : Report :=
  ⟨r.containersCreated + s.containersCreated, r.itemsAdded + s.itemsAdded,
    r.failures + s.failures⟩

/-- What a failed call adds to the report. -/
def failed (message : String) (fields : List (String × String)) (e : CallError) : Job Report := do
  Job.logError message (fields ++ [("error", e.message)])
  return { failures := 1 }

/-- Add an item to an open container. -/
def item (backend : Config.Backend) (c : Config.Populate) (number : Nat) (name value : String)
    (handle : Container.Handle) (n : Nat) (g : Generator) : Job (Report × Generator) := do
  let custom := customItems c.itemsPerContainer c.customPercent
  if custom < n ∧ ¬c.attributeTemplate.isEmpty then Job.reserve c.randomAttributeLen 1
  let (attributes, g) := attributesOf c.attributeTemplate n custom c.randomAttributeLen g
  let id := Naming.bulkItem number n
  match ← Job.call (.addItem handle backend.itemType id value attributes) with
  | .ok () => return ({ itemsAdded := 1 }, g)
  | .error e => return (← failed "Item not added" [("container", name), ("item", id)] e, g)

/-- Do something for `count` numbers from `first` on with a generator; all reports together,
and the generator behind them. -/
def inTurn (perform : Nat → Generator → Job (Report × Generator)) (first count : Nat)
    (g : Generator) : Job (Report × Generator) :=
  let next : Report × Generator → Nat → Job (Report × Generator)
    | (report, g), n => do
      let (one, g) ← perform n g
      return (report.add one, g)
  Program.foldRange next first count ({}, g)

/-- Create a container and fill it. -/
def container (backend : Config.Backend) (c : Config.Populate) (number : Nat) (g : Generator) :
    Job (Report × Generator) := do
  let name := Naming.container backend.containerPrefix number
  match ← Job.call (.createContainer name backend.storageType backend.storageConfig
    backend.credentials) with
  | .error e => return (← failed "Container not created" [("container", name)] e, g)
  | .ok () =>
    let created : Report := { containersCreated := 1 }
    match ← Job.call (.openContainer name backend.credentials) with
    | .error e =>
      return (created.add (← failed "Container not opened" [("container", name)] e), g)
    | .ok handle =>
      Job.reserve c.valueLen 1
      let (value, g) := g.alphanumeric c.valueLen
      let (filled, g) ←
        inTurn (item backend c number name value handle) 1 c.itemsPerContainer g
      let report := created.add filled
      match ← Job.call (.closeContainer handle) with
      | .error e =>
        return (report.add (← failed "Container not closed" [("container", name)] e), g)
      | .ok () => return (report, g)

/-- Create and fill `count` containers from the number `first` on. -/
def containers (backend : Config.Backend) (c : Config.Populate) (first count : Nat)
    (g : Generator) : Job Report := do
  let (report, _) ← inTurn (container backend c) first count g
  return report

/-- The thread of a partition, whose containers are numbered from one. -/
def thread (backend : Config.Backend) (c : Config.Populate) (seeds : Seeds) (p : Partition) :
    Thread requests Report where
  name := "populate_" ++ p.text
  program := containers backend c (p.min + 1) p.size (seeds.stream p.index)

/-- The threads of a population, if its configuration makes sense. -/
def plan (backend : Config.Backend) (c : Config.Populate) (seeds : Seeds) :
    Job (Except SetupError (List (Thread requests Report))) :=
  match c.validate with
  | .error e => return .error e
  | .ok () => do
    match ← Job.split c.totalContainers c.threads with
    | .error e => return .error e
    | .ok partitions => return .ok (partitions.map (thread backend c seeds))

/-- Create and fill all containers; the report comes with the time that it took. -/
def run (backend : Config.Backend) (c : Config.Populate) (seeds : Seeds) :
    Session (Except RunError (Report × Duration)) := do
  match ← plan backend c seeds with
  | .error e => return .error (.setup e)
  | .ok tasks =>
    let start ← Job.clock
    let ended ← Run.forkAll tasks
    let (reports, failure) ← settle (some ⟨"Populator thread panicked", some "thread"⟩) ended
    let stop ← Job.clock
    match failure with
    | some e => return .error e
    | none => return .ok (reports.foldl Report.add {}, stop.elapsed.sub start.elapsed)

end Populate

end Soak
