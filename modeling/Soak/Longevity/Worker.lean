import Soak.Config.Basic
import Soak.Longevity.Monitor
import Soak.Naming
import Soak.Session.Request

/-!
# Lifecycle workers

A worker owns a partition of the containers.  In each iteration it picks one of them at
random, creates it if its counter says that it does not exist, opens it, adds or deletes
an item, reads and updates another one, compares the number of items with its counter,
and closes it.

A call that fails is logged.  If the container cannot be created or opened, the iteration
stops there; the next one is the retry.
-/

namespace Soak

/-- What happened in an iteration. -/
inductive Iteration where
  /-- Every step was taken.  `reported` is the number of items that the store reported, if
  it did. -/
  | completed (container : Nat) (before after : Int) (reported : Option Nat)
  /-- The container was not created, and nothing else was tried. -/
  | createFailed (container : Nat)
  /-- The container was not opened, and nothing else was tried. -/
  | openFailed (container : Nat)
  /-- The container was not closed. -/
  | closeFailed (container : Nat) (before after : Int)
deriving DecidableEq, Repr

/-- Whether the iteration stopped early. -/
def Iteration.stoppedEarly : Iteration → Bool
  | completed _ _ _ _ => false
  | _ => true

/-- The container that was picked. -/
def Iteration.container : Iteration → Nat
  | completed container _ _ _ => container
  | createFailed container => container
  | openFailed container => container
  | closeFailed container _ _ => container

/-- A worker. -/
structure Worker where
  /-- The place of its status among those of all workers. -/
  number : Nat
  /-- The store and the names in it. -/
  backend : Config.Backend
  /-- The partition that it owns. -/
  view : Partition
  /-- The bands of item counts. -/
  policy : Policy
  /-- Its source of random numbers. -/
  rng : Generator
deriving DecidableEq, Repr

namespace Worker

/-- The bytes that a worker takes, 320 of them for its source of random numbers. -/
def bytes : Nat :=
  432

/-- The results that are read of a search. -/
def pageSize : Nat :=
  20

/-- The length of item values. -/
def valueLength : Nat :=
  20

/-- The name of the worker. -/
def name (w : Worker) : String :=
  (Worker.Status.new w.view 0).name

/-- Log a failed call on a container. -/
def logFailed (w : Worker) (message container : String) (fields : List (String × String))
    (e : CallError) : Job Unit :=
  Job.logError message ([("worker", w.name), ("container", container)] ++ fields
    ++ [("error", e.message)])

/-- Log that a container with a counter below one has nothing to work on. -/
def logNothing (w : Worker) (message container : String) (counter : Int) : Job Unit :=
  Job.logWarning message
    [("worker", w.name), ("container", container), ("counter", toString counter)]

/-- Add the item after the newest one; the counter behind it and the generator. -/
def addItem (w : Worker) (handle : Container.Handle) (container : String) (counter : Int) :
    Job (Int × Generator) := do
  let id := Naming.lifecycleItem w.backend.itemIdPrefix (counter + 1)
  let (value, rng) := w.rng.alphanumeric valueLength
  match ← Job.call (.addItem handle w.backend.itemType id value
    (.ofPairs [("container", container)])) with
  | .ok () => return (counter + 1, rng)
  | .error e =>
    w.logFailed "Adding item failed" container [("item", id)] e
    return (counter, rng)

/-- Delete the newest item; the counter behind it. -/
def deleteItem (w : Worker) (handle : Container.Handle) (container : String) (counter : Int) :
    Job Int := do
  if counter < 1 then
    w.logNothing "Nothing to delete" container counter
    return counter
  else
    let id := Naming.lifecycleItem w.backend.itemIdPrefix counter
    match ← Job.call (.deleteItem handle w.backend.itemType id) with
    | .ok () => return counter - 1
    | .error e =>
      w.logFailed "Deleting item failed" container [("item", id)] e
      return counter

/-- Add or delete an item as the policy says; the counter behind it and the generator. -/
def mutate (w : Worker) (handle : Container.Handle) (container : String) (counter : Int) :
    Job (Int × Generator) :=
  match w.policy.choose counter w.rng with
  | (.add, rng) => { w with rng }.addItem handle container counter
  | (.delete, rng) => do return (← w.deleteItem handle container counter, rng)

/-- Read and update a random item; the generator behind it. -/
def readAndUpdate (w : Worker) (handle : Container.Handle) (container : String) (counter : Int) :
    Job Generator := do
  if counter < 1 then
    w.logNothing "Container has no items to get or update" container counter
    return w.rng
  else
    let (n, rng) := w.rng.intIn 1 counter
    let id := Naming.lifecycleItem w.backend.itemIdPrefix n
    match ← Job.call (.getItem handle w.backend.itemType id .all) with
    | .ok _ => pure ()
    | .error e => w.logFailed "Getting item failed" container [("item", id)] e
    let now ← Job.clock
    match ← Job.call (.updateItemValue handle w.backend.itemType id
      (toString now.date.unixMillis)) with
    | .ok _ => pure ()
    | .error e => w.logFailed "Updating item failed" container [("item", id)] e
    return rng

/-- Compare the number of items on a page of search results with the counter; the number,
if the page carries one. -/
def comparePage (w : Worker) (container : String) (expected : Int) (page : Json) :
    Job (Option Nat) :=
  match Search.Page.decode page with
  | .error e => do
    Job.logWarning "Could not parse search results"
      [("container", container), ("error", e.message)]
    return none
  | .ok ⟨none, _⟩ => do
    Job.logWarning "Search results carried no total count" [("container", container)]
    return none
  | .ok ⟨some actual, _⟩ => do
    if Int.bmod actual (2 ^ 64) ≠ expected then
      Job.logWarning "Backend item count does not match local counter"
        [("worker", w.name), ("container", container), ("expected", toString expected),
          ("actual", toString actual)]
    return some actual

/-- Ask the store for the number of items and compare it with the counter. -/
def compareCount (w : Worker) (handle : Container.Handle) (container : String) (expected : Int) :
    Job (Option Nat) := do
  match ← Job.call (.openSearch handle w.backend.itemType "\x7b\x7d" .all) with
  | .error e =>
    w.logFailed "Search failed" container [] e
    return none
  | .ok search =>
    let page ← Job.call (.fetchNextResults search pageSize)
    let _ ← Job.call (.closeSearch search)
    match page with
    | .error e =>
      w.logFailed "Fetching search results failed" container [] e
      return none
    | .ok page => w.comparePage container expected page

/-- The part of an iteration on a container that exists, with the generator behind it. -/
def visit (w : Worker) (container : Nat) (before : Int) :
    Job (Except SetupError Iteration × Generator) := do
  let name := Naming.container w.backend.containerPrefix container
  match ← Job.call (.openContainer name w.backend.credentials) with
  | .error e =>
    w.logFailed "Container not opened" name [] e
    return (.ok (.openFailed container), w.rng)
  | .ok handle =>
    let (after, rng) ← w.mutate handle name before
    match ← Program.question (I := requests) (.writeSlot w.view container after) with
    | .error e => return (.error e, rng)
    | .ok () =>
      let w := { w with rng }
      let rng ← w.readAndUpdate handle name after
      let reported ← w.compareCount handle name after
      match ← Job.call (.closeContainer handle) with
      | .error e =>
        w.logFailed "Container not closed" name [] e
        return (.ok (.closeFailed container before after), rng)
      | .ok () => return (.ok (.completed container before after reported), rng)

/-- The part of an iteration on the container that was picked, with the generator behind
it.  A container whose counter is negative is created first. -/
def attend (w : Worker) (container : Nat) : Job (Except SetupError Iteration × Generator) := do
  match ← Program.question (I := requests) (.readSlot w.view container) with
  | .error e => return (.error e, w.rng)
  | .ok counter =>
    if counter < 0 then
      let name := Naming.container w.backend.containerPrefix container
      match ← Job.call (.createContainer name w.backend.storageType w.backend.storageConfig
        w.backend.credentials) with
      | .error e =>
        w.logFailed "Container not created" name [] e
        return (.ok (.createFailed container), w.rng)
      | .ok () =>
        match ← Program.question (I := requests) (.writeSlot w.view container 0) with
        | .error e => return (.error e, w.rng)
        | .ok () => w.visit container 0
    else w.visit container counter

/-- One iteration on a container picked at random, and the worker behind it. -/
def iterate (w : Worker) : Job (Except SetupError Iteration × Worker) := do
  let (container, rng) := w.rng.natIn w.view.min w.view.max
  let (outcome, rng) ← { w with rng }.attend container
  return (outcome, { w with rng })

/-- One iteration, recorded in the status of the worker, unless the deadline has passed. -/
def turn (w : Worker) (epoch deadline : Duration) : Job (Option Worker) := do
  let now ← Job.clock
  if deadline.nanos ≤ now.elapsed.nanos then return none
  else
    let (outcome, next) ← w.iterate
    let aborted ← (match outcome with
      | .ok iteration => return iteration.stoppedEarly
      | .error e => do
        Job.logError "Iteration failed" [("worker", w.name), ("error", e.message)]
        return true : Job Bool)
    let now ← Job.clock
    let _ ← Program.question (I := requests) (.record w.number (now.sinceMs epoch) aborted)
    return some next

/-- Iterations until the deadline.  The first argument bounds their number; beyond it, a worker
is lost. -/
def turns (epoch deadline : Duration) : Nat → Worker → Job Unit
  | 0, _ => .panic Job.lost
  | fuel + 1, w => do
    match ← w.turn epoch deadline with
    | none => return ()
    | some w => turns epoch deadline fuel w

/-- More iterations than a counter of 64 bits counts. -/
def endless : Nat :=
  2 ^ 64

/-- Iterations until the deadline; how many there were. -/
def run (w : Worker) (epoch deadline : Duration) : Job Nat := do
  turns epoch deadline endless w
  let statuses ← Program.question (I := requests) .statuses
  return (statuses[w.number]?.map Worker.Status.iterations).getD 0

end Worker

end Soak
