import Soak.Store.Call

/-!
# A store in memory

The store keeps its containers by name, the open ones by handle, and the running searches
by handle.  Containers and searches take their handles from one counter, and a handle is
taken before the store is asked whether the call can succeed: a call that fails later has
used its number up.

Every call is a function from the state of the store to its answer and the next state.
Opening a container and opening a search fall into two steps, `allocate` and `attach` or
`beginSearch`, between which the calls of other clients may come.
-/

namespace Soak

/-- What an item is found by within its container. -/
structure Item.Key where
  /-- The type. -/
  itemType : String
  /-- The id within the type. -/
  id : String
deriving DecidableEq, Repr

/-- Keys are ordered by their type, and within a type by their id. -/
def Item.Key.compare : Item.Key → Item.Key → Ordering :=
  compareLex (compareOn Item.Key.itemType) (compareOn Item.Key.id)

instance : Std.TransCmp Item.Key.compare :=
  inferInstanceAs (Std.TransCmp (compareLex (compareOn Item.Key.itemType) (compareOn Item.Key.id)))

instance : Std.LawfulEqCmp Item.Key.compare where
  eq_of_compare {a b} h := by
    simp only [Item.Key.compare, compareLex_eq_eq, compareOn, Std.compare_eq_iff_eq] at h
    cases a; cases b; simp_all

/-- An item. -/
structure Item where
  /-- The value. -/
  value : String
  /-- The attributes. -/
  tags : Attributes
deriving DecidableEq, Repr

/-- A container. -/
structure Container where
  /-- The metadata. -/
  metadata : String
  /-- The items. -/
  items : Std.ExtTreeMap Item.Key Item Item.Key.compare
  /-- The handle, while the container is open. -/
  openHandle : Option Int
deriving DecidableEq, Repr

/-- A running search: what it found when it was opened, less what has been read. -/
structure Search where
  /-- How many results there were. -/
  totalCount : Nat
  /-- The results that have not been read. -/
  pending : List Item.Record
  /-- What was asked for. -/
  options : Search.Options
deriving DecidableEq, Repr

/-- The state of a store. -/
structure Store where
  /-- The containers, by name. -/
  containers : Std.ExtTreeMap String Container compare
  /-- The names of the open containers, by handle. -/
  opened : Std.ExtTreeMap Int String compare
  /-- The running searches, by handle. -/
  searches : Std.ExtTreeMap Int Search compare
  /-- The handle that is given out next. -/
  nextHandle : Int
deriving DecidableEq, Repr

/-- A container without items. -/
def Container.empty : Container :=
  ⟨"", ∅, none⟩

/-- An item as a record. -/
def Item.toRecord (key : Item.Key) (item : Item) (options : Item.Options) : Item.Record where
  id := key.id
  itemType := if options.retrieveType then some key.itemType else none
  value := if options.retrieveValue then some item.value else none
  tags := if options.retrieveTags then some item.tags else none

/-- The next results of a search, as a page. -/
def Search.page (cursor : Search) (count : Nat) : Search.Page where
  totalCount := if cursor.options.retrieveTotalCount then some cursor.totalCount else none
  records := if cursor.options.retrieveRecords then some (cursor.pending.take count) else none

namespace Store

/-- A store without containers. -/
def empty : Store :=
  ⟨∅, ∅, ∅, 1⟩

instance : Inhabited Store :=
  ⟨empty⟩

/-- What a function on stores answers, with the store behind it. -/
abbrev Outcome (α : Type) : Type :=
  Except CallError α × Store

/-! ### Looking around -/

/-- How many containers there are. -/
def containerCount (s : Store) : Nat :=
  s.containers.size

/-- Whether a container exists. -/
def hasContainer (s : Store) (name : String) : Bool :=
  s.containers.contains name

/-- Whether a container is open. -/
def isOpen (s : Store) (name : String) : Bool :=
  match s.containers[name]? with
  | some c => c.openHandle.isSome
  | none => false

/-- How many items a container has. -/
def itemCount (s : Store) (name : String) : Option Nat :=
  s.containers[name]?.map fun c => c.items.size

/-- The attributes of an item. -/
def itemAttributes (s : Store) (name itemType id : String) : Option Attributes :=
  s.containers[name]?.bind fun c => c.items[Item.Key.mk itemType id]?.map Item.tags

/-! ### Handles -/

/-- A handle that was never given out, and the store in which it is. -/
def allocate (s : Store) : Int × Store :=
  (s.nextHandle, { s with nextHandle := s.nextHandle + 1 })

/-- The container that a handle refers to, with its name. -/
def resolve (s : Store) (handle : Container.Handle) : Except CallError (String × Container) :=
  match s.opened[handle.number]? with
  | none => .error (.invalidHandle handle.number)
  | some name =>
    match s.containers[name]? with
    | none => .error (.containerNotFound name)
    | some c => .ok (name, c)

/-- The store with another state of a container. -/
def put (s : Store) (name : String) (c : Container) : Store :=
  { s with containers := s.containers.insert name c }

/-- Change the container of a handle, or refuse to. -/
def onContainer (s : Store) (handle : Container.Handle)
    (change : Container → Except CallError Container) : Outcome Unit :=
  match s.resolve handle with
  | .error e => (.error e, s)
  | .ok (name, c) =>
    match change c with
    | .error e => (.error e, s)
    | .ok c => (.ok (), s.put name c)

/-- Change an item of the container of a handle. -/
def onItem (s : Store) (handle : Container.Handle) (itemType id : String)
    (change : Item → Item) : Outcome Unit :=
  s.onContainer handle fun c =>
    match c.items[Item.Key.mk itemType id]? with
    | none => .error (.itemNotFound itemType id)
    | some item => .ok { c with items := c.items.insert ⟨itemType, id⟩ (change item) }

/-- Whether a text that is passed on is JSON. -/
def requireJson (fault : StructureFault) (text : String) : Except CallError Unit :=
  if (Json.ofText? text).isSome then .ok () else .error (.invalidStructure fault)

/-! ### Containers -/

/-- Create an empty container. -/
def createContainer (s : Store) (name config credentials : String) : Outcome Unit :=
  if name = "" then (.error (.invalidStructure .emptyName), s)
  else
    match requireJson .config config, requireJson .credentials credentials with
    | .error e, _ => (.error e, s)
    | _, .error e => (.error e, s)
    | .ok (), .ok () =>
      if s.hasContainer name then (.error (.containerAlreadyExists name), s)
      else (.ok (), s.put name .empty)

/-- Open a container under a handle that was allocated for it. -/
def attach (s : Store) (name : String) (handle : Int) : Outcome Container.Handle :=
  match s.containers[name]? with
  | none => (.error (.containerNotFound name), s)
  | some c =>
    if c.openHandle.isSome then (.error (.containerAlreadyOpen name), s)
    else
      (.ok ⟨handle⟩,
        { s.put name { c with openHandle := some handle } with
          opened := s.opened.insert handle name })

/-- Open a container. -/
def openContainer (s : Store) (name credentials : String) : Outcome Container.Handle :=
  match requireJson .credentials credentials with
  | .error e => (.error e, s)
  | .ok () => s.allocate.2.attach name s.allocate.1

/-- Close an open container. -/
def closeContainer (s : Store) (handle : Container.Handle) : Outcome Unit :=
  match s.opened[handle.number]? with
  | none => (.error (.invalidHandle handle.number), s)
  | some name =>
    (.ok (),
      { s with
        opened := s.opened.erase handle.number
        containers := s.containers.modify name fun c => { c with openHandle := none } })

/-- Delete a closed container with everything in it. -/
def deleteContainer (s : Store) (name credentials : String) : Outcome Unit :=
  match requireJson .credentials credentials with
  | .error e => (.error e, s)
  | .ok () =>
    match s.containers[name]? with
    | none => (.error (.containerNotFound name), s)
    | some c =>
      if c.openHandle.isSome then (.error (.containerAlreadyOpen name), s)
      else (.ok (), { s with containers := s.containers.erase name })

/-- Replace the metadata of a container. -/
def setMetadata (s : Store) (handle : Container.Handle) (metadata : String) : Outcome Unit :=
  s.onContainer handle fun c => .ok { c with metadata }

/-- Read the metadata of a container. -/
def getMetadata (s : Store) (handle : Container.Handle) : Outcome String :=
  ((s.resolve handle).map fun (_, c) => c.metadata, s)

/-! ### Items -/

/-- Add an item. -/
def addItem (s : Store) (handle : Container.Handle) (itemType id value : String)
    (attributes : Attributes) : Outcome Unit :=
  s.onContainer handle fun c =>
    if c.items.contains ⟨itemType, id⟩ then .error (.itemAlreadyExists itemType id)
    else .ok { c with items := c.items.insert ⟨itemType, id⟩ ⟨value, attributes⟩ }

/-- Read an item. -/
def getItem (s : Store) (handle : Container.Handle) (itemType id : String)
    (options : Item.Options) : Outcome Json :=
  match s.resolve handle with
  | .error e => (.error e, s)
  | .ok (_, c) =>
    match c.items[Item.Key.mk itemType id]? with
    | none => (.error (.itemNotFound itemType id), s)
    | some item => (.ok (item.toRecord ⟨itemType, id⟩ options).toJson, s)

/-- Delete an item. -/
def deleteItem (s : Store) (handle : Container.Handle) (itemType id : String) : Outcome Unit :=
  s.onContainer handle fun c =>
    if c.items.contains ⟨itemType, id⟩ then .ok { c with items := c.items.erase ⟨itemType, id⟩ }
    else .error (.itemNotFound itemType id)

/-- Replace the value of an item. -/
def updateItemValue (s : Store) (handle : Container.Handle) (itemType id value : String) :
    Outcome Unit :=
  s.onItem handle itemType id fun item => { item with value }

/-- Add attributes to an item, replacing those it has. -/
def addAttributes (s : Store) (handle : Container.Handle) (itemType id : String)
    (attributes : Attributes) : Outcome Unit :=
  s.onItem handle itemType id fun item => { item with tags := item.tags ∪ attributes }

/-- Replace all attributes of an item. -/
def updateAttributes (s : Store) (handle : Container.Handle) (itemType id : String)
    (attributes : Attributes) : Outcome Unit :=
  s.onItem handle itemType id fun item => { item with tags := attributes }

/-- Remove attributes from an item. -/
def deleteAttributes (s : Store) (handle : Container.Handle) (itemType id : String)
    (names : List String) : Outcome Unit :=
  s.onItem handle itemType id fun item => { item with tags := item.tags.without names }

/-! ### Searches -/

/-- The items of a type that satisfy a query, in the order of their ids. -/
def results (c : Container) (itemType : String) (query : Query) (options : Item.Options) :
    List Item.Record :=
  c.items.toList.filterMap fun (key, item) =>
    if key.itemType = itemType && query.holds item.tags then some (item.toRecord key options)
    else none

/-- Start a search under a handle that was allocated for it. -/
def beginSearch (s : Store) (container : Container.Handle) (itemType : String) (query : Query)
    (options : Search.Options) (handle : Int) : Outcome Search.Handle :=
  match s.resolve container with
  | .error e => (.error e, s)
  | .ok (_, c) =>
    let found := results c itemType query options.itemOptions
    (.ok ⟨handle⟩,
      { s with searches := s.searches.insert handle ⟨found.length, found, options⟩ })

/-- Start a search. -/
def openSearch (s : Store) (container : Container.Handle) (itemType query : String)
    (options : Search.Options) : Outcome Search.Handle :=
  match Query.parse query with
  | .error fault => (.error (.invalidQuery fault), s)
  | .ok query => s.allocate.2.beginSearch container itemType query options s.allocate.1

/-- Read the next results of a search. -/
def fetchNextResults (s : Store) (search : Search.Handle) (count : Nat) : Outcome Json :=
  match s.searches[search.number]? with
  | none => (.error (.invalidHandle search.number), s)
  | some cursor =>
    (.ok (cursor.page count).toJson,
      { s with
        searches :=
          s.searches.insert search.number { cursor with pending := cursor.pending.drop count } })

/-- End a search. -/
def closeSearch (s : Store) (search : Search.Handle) : Outcome Unit :=
  if s.searches.contains search.number then
    (.ok (), { s with searches := s.searches.erase search.number })
  else (.error (.invalidHandle search.number), s)

/-! ### All calls -/

/-- The answer to a call and the store behind it. -/
def answer (s : Store) : (call : Call) → Outcome call.Reply
  | .createContainer name _ config credentials => s.createContainer name config credentials
  | .openContainer name credentials => s.openContainer name credentials
  | .closeContainer handle => s.closeContainer handle
  | .deleteContainer name credentials => s.deleteContainer name credentials
  | .setMetadata handle metadata => s.setMetadata handle metadata
  | .getMetadata handle => s.getMetadata handle
  | .addItem handle itemType id value attributes => s.addItem handle itemType id value attributes
  | .getItem handle itemType id options => s.getItem handle itemType id options
  | .deleteItem handle itemType id => s.deleteItem handle itemType id
  | .updateItemValue handle itemType id value => s.updateItemValue handle itemType id value
  | .addAttributes handle itemType id attributes => s.addAttributes handle itemType id attributes
  | .updateAttributes handle itemType id attributes =>
    s.updateAttributes handle itemType id attributes
  | .deleteAttributes handle itemType id names => s.deleteAttributes handle itemType id names
  | .openSearch handle itemType query options => s.openSearch handle itemType query options
  | .fetchNextResults search count => s.fetchNextResults search count
  | .closeSearch search => s.closeSearch search

end Store

end Soak
