import Soak.Config.Basic
import Soak.Load.Payload
import Soak.Naming
import Soak.Session.Request

/-!
# Performing an action on a container

Each action makes calls of the store, counts them, and counts and logs those that fail.
Actions on items go through the items `1` to `items` of the container and go on after a
failure.
-/

namespace Soak

/-- How many calls were made, and how many of them failed. -/
structure Tally where
  /-- The calls. -/
  operations : Nat := 0
  /-- The calls that failed. -/
  failures : Nat := 0
deriving DecidableEq, Repr

/-- Both counts together. -/
def Tally.add (t u : Tally) : Tally :=
  ⟨t.operations + u.operations, t.failures + u.failures⟩

/-- All counts together. -/
def Tally.sum (tallies : List Tally) : Tally :=
  tallies.foldl Tally.add {}

/-- What an action needs besides its container. -/
structure LoadContext where
  /-- The store and the names in it. -/
  backend : Config.Backend
  /-- The payload. -/
  payload : Payload
  /-- How many items of the container are worked on. -/
  items : Nat
  /-- The value that items are written with. -/
  value : String

/-- The container that an action is performed on. -/
structure Target where
  /-- The number of the container. -/
  number : Nat
  /-- Its name. -/
  name : String
  /-- Its handle, if it was opened for the action. -/
  handle : Option Container.Handle

namespace Target

/-- The tally of one call; a failure is logged. -/
def settle {α : Type} (target : Target) (what : String) :
    Except CallError α → Job Tally
  | .ok _ => return ⟨1, 0⟩
  | .error e => do
    Job.logError (what ++ " failed")
      [("container", target.name), ("error", e.message), ("code", toString e.code)]
    return ⟨1, 1⟩

/-- Make one call and count it. -/
def attempt (target : Target) (what : String) (call : Call) : Job Tally := do
  target.settle what (← Job.call call)

/-- Make a call for one of the items. -/
def onItem (target : Target) (what : String) (perform : String → Job (Except CallError Unit))
    (item : Nat) : Job Tally := do
  target.settle what (← perform (Naming.bulkItem target.number item))

/-- Make a call for each item of an open container. -/
def eachItem (target : Target) (items : Nat) (what : String)
    (perform : Container.Handle → String → Job (Except CallError Unit)) : Job Tally :=
  match target.handle with
  | none => do
    Job.logError (what ++ " needs an open container") [("container", target.name)]
    return ⟨1, 1⟩
  | some handle => do
    return .sum (← Program.mapRange (target.onItem what (perform handle)) 1 items)

end Target

/-- Read an item; an answer of `null` counts as an item that is not there. -/
def readItem (handle : Container.Handle) (itemType id : String) : Job (Except CallError Unit) := do
  match ← Job.call (.getItem handle itemType id .all) with
  | .ok .null => return .error (.itemNotFound itemType id)
  | .ok _ => return .ok ()
  | .error e => return .error e

/-- Search an open container once, and read one page of the results. -/
def searchPage (c : LoadContext) (target : Target) : Job Tally :=
  match target.handle with
  | none => target.settle (α := Unit) "Search" (.error (.invalidHandle (-1)))
  | some handle => do
    let opened ← Job.call (.openSearch handle c.backend.itemType c.payload.query .all)
    let tally ← target.settle "Open search" opened
    match opened with
    | .error _ => return tally
    | .ok search =>
      let fetched ← target.attempt "Fetch search results"
        (.fetchNextResults search (Nat.max c.items 1))
      let closed ← target.attempt "Close search" (.closeSearch search)
      return (tally.add fetched).add closed

/-- Open a container and close it again. -/
def openAndClose (c : LoadContext) (target : Target) : Job Tally := do
  let opened ← Job.call (.openContainer target.name c.backend.credentials)
  let tally ← target.settle "Open container" opened
  match opened with
  | .error _ => return tally
  | .ok handle => return tally.add (← target.attempt "Close container" (.closeContainer handle))

/-- Perform an action on a container. -/
def Action.execute (c : LoadContext) (target : Target) : Action → Job Tally
  | addContainer =>
    target.attempt "Create container"
      (.createContainer target.name c.backend.storageType c.backend.storageConfig
        c.backend.credentials)
  | openAndCloseContainer => openAndClose c target
  | deleteContainer =>
    target.attempt "Delete container" (.deleteContainer target.name c.backend.credentials)
  | addItem =>
    target.eachItem c.items "Add item" fun handle id =>
      Job.call (.addItem handle c.backend.itemType id c.value c.payload.attributes)
  | getItem =>
    target.eachItem c.items "Get item" fun handle id => readItem handle c.backend.itemType id
  | deleteItem =>
    target.eachItem c.items "Delete item" fun handle id =>
      Job.call (.deleteItem handle c.backend.itemType id)
  | updateItemValue =>
    target.eachItem c.items "Update item value" fun handle id =>
      Job.call (.updateItemValue handle c.backend.itemType id c.value)
  | addAttributes =>
    target.eachItem c.items "Add attributes" fun handle id =>
      Job.call (.addAttributes handle c.backend.itemType id c.payload.attributes)
  | updateAttributes =>
    target.eachItem c.items "Update attributes" fun handle id =>
      Job.call (.updateAttributes handle c.backend.itemType id c.payload.attributes)
  | deleteAttributes =>
    target.eachItem c.items "Delete attributes" fun handle id =>
      Job.call (.deleteAttributes handle c.backend.itemType id c.payload.names)
  | searchItems => searchPage c target

end Soak
