import Soak.Config.Basic
import Soak.Naming
import Soak.Session.Outcome
import Soak.Summary

/-!
# The chained benchmark

Thirteen stages are benchmarked one after another.  Each of them leaves what the next one
needs: the first creates a container for every operation of every thread, and the last
one deletes them again.
-/

namespace Soak

namespace Chain

/-- The operation of a stage. -/
inductive Stage where
  /-- Create the container. -/
  | createContainer
  /-- Set its metadata. -/
  | setMetadata
  /-- Read its metadata. -/
  | getMetadata
  /-- Add its item. -/
  | addItem
  /-- Read the item. -/
  | getItem
  /-- Replace the value of the item. -/
  | updateItemValue
  /-- Add attributes to the item. -/
  | addAttributes
  /-- Replace the attributes of the item. -/
  | updateAttributes
  /-- Search for the item by its attributes. -/
  | searchItems
  /-- Search for all items. -/
  | searchAll
  /-- Remove an attribute of the item. -/
  | deleteAttributes
  /-- Delete the item. -/
  | deleteItem
  /-- Delete the container. -/
  | deleteContainer
deriving DecidableEq, Repr

namespace Stage

/-- Every stage, in order. -/
def all : List Stage :=
  [createContainer, setMetadata, getMetadata, addItem, getItem, updateItemValue, addAttributes,
    updateAttributes, searchItems, searchAll, deleteAttributes, deleteItem, deleteContainer]

/-- What a stage is called. -/
def label : Stage → String
  | createContainer => "Create Container"
  | setMetadata => "Set Metadata"
  | getMetadata => "Get Metadata"
  | addItem => "Add Item"
  | getItem => "Get Item"
  | updateItemValue => "Update Item Value"
  | addAttributes => "Add Attributes"
  | updateAttributes => "Update Attributes"
  | searchItems => "Search Items"
  | searchAll => "Search All Items"
  | deleteAttributes => "Delete Attributes"
  | deleteItem => "Delete Item"
  | deleteContainer => "Delete Container"

/-- The stage that is called so. -/
def ofLabel? (label : String) : Option Stage :=
  all.find? fun stage => stage.label = label

end Stage

/-- The query that finds the item after its attributes were replaced. -/
def itemQuery : String :=
  "\x7b\"color\": \x7b\"$in\": [\"red\", \"crimson\"]\x7d, \"~note\": \"updated\"\x7d"

/-- The success of a call, without its answer. -/
def completed {α : Type} : Except CallError α → Except CallError Unit
  | .ok _ => .ok ()
  | .error e => .error e

/-- The first of two results if it is an error, and the second one otherwise. -/
def firstError (first second : Except CallError Unit) : Except CallError Unit :=
  match first with
  | .ok () => second
  | .error e => .error e

/-- Make a call for its success alone. -/
def perform (call : Call) : Job (Except CallError Unit) := do
  return completed (← Job.call call)

/-- Search an open container, read one result, and end the search in any case. -/
def search (handle : Container.Handle) (itemType query : String) : Job (Except CallError Unit) := do
  match ← Job.call (.openSearch handle itemType query .all) with
  | .error e => return .error e
  | .ok found =>
    let fetched ← perform (.fetchNextResults found 1)
    return firstError fetched (← perform (.closeSearch found))

/-- What a stage does with its open container. -/
def withOpen (backend : Config.Backend) (id : String) (handle : Container.Handle) :
    Stage → Job (Except CallError Unit)
  | .createContainer | .deleteContainer => return .ok ()
  | .setMetadata => perform (.setMetadata handle "chained benchmark metadata")
  | .getMetadata => perform (.getMetadata handle)
  | .addItem =>
    perform (.addItem handle backend.itemType id "chained benchmark value"
      (.ofPairs [("color", "blue"), ("size", "large"), ("~origin", "chained")]))
  | .getItem => perform (.getItem handle backend.itemType id .all)
  | .updateItemValue =>
    perform (.updateItemValue handle backend.itemType id "chained benchmark value, updated")
  | .addAttributes =>
    perform (.addAttributes handle backend.itemType id
      (.ofPairs [("color", "green"), ("~note", "added")]))
  | .updateAttributes =>
    perform (.updateAttributes handle backend.itemType id
      (.ofPairs [("color", "red"), ("~note", "updated")]))
  | .searchItems => search handle backend.itemType itemQuery
  | .searchAll => search handle backend.itemType "\x7b\x7d"
  | .deleteAttributes => perform (.deleteAttributes handle backend.itemType id ["~note"])
  | .deleteItem => perform (.deleteItem handle backend.itemType id)

/-- Perform a stage once.  A container that was opened is closed in any case. -/
def Stage.execute (backend : Config.Backend) (thread op : Nat) (stage : Stage) :
    Job (Except CallError Unit) := do
  let name := Naming.chainContainer thread op
  match stage with
  | .createContainer =>
    perform (.createContainer name backend.storageType backend.storageConfig backend.credentials)
  | .deleteContainer => perform (.deleteContainer name backend.credentials)
  | stage =>
    match ← Job.call (.openContainer name backend.credentials) with
    | .error e => return .error e
    | .ok handle =>
      let result ← withOpen backend (Naming.chainItem thread op) handle stage
      return firstError result (← perform (.closeContainer handle))

/-- The timed spans of a thread, and how many of its operations failed. -/
structure Share where
  /-- The spans, one for each operation. -/
  spans : List Duration := []
  /-- The operations that failed. -/
  failures : Nat := 0
deriving DecidableEq, Repr

/-- Perform a stage for an operation and time it. -/
def operation (backend : Config.Backend) (stage : Stage) (thread op : Nat) : Job Share := do
  let (result, span) ← Job.timed (stage.execute backend thread op)
  match result with
  | .ok () => return ⟨[span], 0⟩
  | .error e =>
    Job.logError "Stage operation failed"
      [("stage", stage.label), ("thread", toString thread), ("op", toString op),
        ("error", e.message)]
    return ⟨[span], 1⟩

/-- Several shares as one. -/
def Share.join (shares : List Share) : Share :=
  ⟨(shares.map Share.spans).flatten, (shares.map Share.failures).sum⟩

/-- Perform a stage for operations one after another, with memory for as many spans. -/
def operations (backend : Config.Backend) (stage : Stage) (thread ops : Nat) : Job Share := do
  Job.reserveSpans ops
  return .join (← Program.mapRange (operation backend stage thread) 0 ops)

/-- A thread of a stage. -/
def thread (backend : Config.Backend) (stage : Stage) (ops number : Nat) :
    Thread requests Share where
  name := s!"chained_{number}"
  program := operations backend stage number ops

/-- Benchmark one stage with all threads. -/
def runStage (backend : Config.Backend) (c : Config.Chained) (stage : Stage) :
    Session (Except RunError Summary) := do
  let start ← Job.clock
  Job.reserve c.threads Job.handleBytes
  let ended ← Run.forkAll ((List.range c.threads).map (thread backend stage c.operationsPerThread))
  let (shares, failure) ← settle none ended
  let stop ← Job.clock
  match failure with
  | some e => return .error e
  | none =>
    let runId ← Program.question (I := requests) .freshId
    let spans := shares.map Share.spans
    return .ok (.combine stage.label runId start.date spans (stop.elapsed.sub start.elapsed)
      c.threads c.operationsPerThread spans.flatten.length
      (shares.map Share.failures).sum)

/-- Benchmark stages one after another, up to the first one that has no result. -/
def runStages (backend : Config.Backend) (c : Config.Chained) :
    List Stage → Session (Except RunError (List Summary))
  | [] => return .ok []
  | stage :: rest => do
    match ← runStage backend c stage with
    | .error e => return .error e
    | .ok summary =>
      match ← runStages backend c rest with
      | .error e => return .error e
      | .ok others => return .ok (summary :: others)

/-- Benchmark all stages. -/
def run (backend : Config.Backend) (c : Config.Chained) :
    Session (Except RunError (List Summary)) :=
  match c.validate with
  | .error e => return .error (.setup e)
  | .ok () => runStages backend c Stage.all

end Chain

end Soak
