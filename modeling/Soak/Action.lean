import Soak.SetupError
import Soak.Text.Blank

/-!
# The actions of a load run

The eleven operations that can be run in bulk, their names, and what each of them needs
to find in the store.
-/

namespace Soak

/-- An operation that a load run performs on every container. -/
inductive Action where
  /-- Create the container. -/
  | addContainer
  /-- Open the container and close it again. -/
  | openAndCloseContainer
  /-- Delete the container. -/
  | deleteContainer
  /-- Add items. -/
  | addItem
  /-- Read items. -/
  | getItem
  /-- Delete items. -/
  | deleteItem
  /-- Replace the values of items. -/
  | updateItemValue
  /-- Add attributes to items. -/
  | addAttributes
  /-- Replace the attributes of items. -/
  | updateAttributes
  /-- Remove attributes from items. -/
  | deleteAttributes
  /-- Search the container once. -/
  | searchItems
deriving DecidableEq, Repr, Inhabited

namespace Action

/-- Every action, in order. -/
def all : List Action :=
  [addContainer, openAndCloseContainer, deleteContainer, addItem, getItem, deleteItem,
    updateItemValue, addAttributes, updateAttributes, deleteAttributes, searchItems]

/-- The name in configurations and on the command line. -/
def name : Action → String
  | addContainer => "add_container"
  | openAndCloseContainer => "open_and_close_container"
  | deleteContainer => "delete_container"
  | addItem => "add_item"
  | getItem => "get_item"
  | deleteItem => "delete_item"
  | updateItemValue => "update_item_value"
  | addAttributes => "add_attributes"
  | updateAttributes => "update_attributes"
  | deleteAttributes => "delete_attributes"
  | searchItems => "search_items"

/-- The action with exactly this name. -/
def ofName? (name : String) : Option Action :=
  all.find? fun a => a.name = name

@[simp] theorem ofName?_name (a : Action) : ofName? a.name = some a := by
  cases a <;> decide

/-- The action a person means: blanks around the name, capital letters of ASCII and
hyphens for underscores are allowed. -/
def ofText (text : String) : Except SetupError Action :=
  let plain := (Text.trim text).toList.map fun c => if c = '-' then '_' else c.toLower
  match ofName? (String.ofList plain) with
  | some a => .ok a
  | none => .error (.config (.unknownAction text))

/-- Whether the container is opened before the action and closed after it. -/
def needsOpening : Action → Bool
  | addContainer | openAndCloseContainer | deleteContainer => false
  | _ => true

/-- Whether the containers have to exist. -/
def needsContainers : Action → Bool
  | addContainer => false
  | _ => true

/-- Whether the items have to exist. -/
def needsItems : Action → Bool
  | getItem | deleteItem | updateItemValue | addAttributes | updateAttributes
  | deleteAttributes | searchItems => true
  | _ => false

end Action

end Soak
