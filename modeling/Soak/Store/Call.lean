import Soak.Store.Record

/-!
# The calls of a store

Everything a client can ask of a store of containers and items.  A call is a value; the
type of its answer depends on the call, and any call may fail instead.
-/

namespace Soak

/-- What an open container is referred to by. -/
structure Container.Handle where
  /-- The number. -/
  number : Int
deriving DecidableEq, Repr, Inhabited

/-- What an open search is referred to by. -/
structure Search.Handle where
  /-- The number. -/
  number : Int
deriving DecidableEq, Repr, Inhabited

/-- The handle as text. -/
def Container.Handle.text (h : Container.Handle) : String :=
  s!"container#{h.number}"

/-- The handle as text. -/
def Search.Handle.text (h : Search.Handle) : String :=
  s!"search#{h.number}"

/-- A request to a store. -/
inductive Call where
  /-- Create an empty container. -/
  | createContainer (name storageType config credentials : String)
  /-- Open a container. -/
  | openContainer (name credentials : String)
  /-- Close an open container. -/
  | closeContainer (handle : Container.Handle)
  /-- Delete a closed container with everything in it. -/
  | deleteContainer (name credentials : String)
  /-- Replace the metadata of a container. -/
  | setMetadata (handle : Container.Handle) (metadata : String)
  /-- Read the metadata of a container. -/
  | getMetadata (handle : Container.Handle)
  /-- Add an item. -/
  | addItem (handle : Container.Handle) (itemType id value : String) (attributes : Attributes)
  /-- Read an item. -/
  | getItem (handle : Container.Handle) (itemType id : String) (options : Item.Options)
  /-- Delete an item. -/
  | deleteItem (handle : Container.Handle) (itemType id : String)
  /-- Replace the value of an item. -/
  | updateItemValue (handle : Container.Handle) (itemType id value : String)
  /-- Add attributes to an item, replacing those it has. -/
  | addAttributes (handle : Container.Handle) (itemType id : String) (attributes : Attributes)
  /-- Replace all attributes of an item. -/
  | updateAttributes (handle : Container.Handle) (itemType id : String) (attributes : Attributes)
  /-- Remove attributes from an item. -/
  | deleteAttributes (handle : Container.Handle) (itemType id : String) (names : List String)
  /-- Start a search. -/
  | openSearch (handle : Container.Handle) (itemType query : String) (options : Search.Options)
  /-- Read the next results of a search. -/
  | fetchNextResults (search : Search.Handle) (count : Nat)
  /-- End a search. -/
  | closeSearch (search : Search.Handle)
deriving Repr

/-- What a call answers if it succeeds. -/
abbrev Call.Reply : Call → Type
  | openContainer _ _ => Container.Handle
  | getMetadata _ => String
  | getItem _ _ _ _ => Json
  | openSearch _ _ _ _ => Search.Handle
  | fetchNextResults _ _ => Json
  | _ => Unit

/-- What a call answers. -/
abbrev Call.Answer (c : Call) : Type :=
  Except CallError c.Reply

end Soak
