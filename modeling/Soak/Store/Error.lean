import Soak.Query.Parse

/-!
# How calls of the store fail

The causes, their wording, and the numbers that a storage service reports them with.
-/

namespace Soak

/-- Which text of a request is no JSON text. -/
inductive StructureFault where
  /-- A container without a name. -/
  | emptyName
  /-- The storage configuration. -/
  | config
  /-- The credentials. -/
  | credentials
  /-- A page of search results. -/
  | page
deriving DecidableEq, Repr

/-- How a call of the store fails. -/
inductive CallError where
  /-- There is no such container. -/
  | containerNotFound (name : String)
  /-- The name of the container is taken. -/
  | containerAlreadyExists (name : String)
  /-- The container is open. -/
  | containerAlreadyOpen (name : String)
  /-- There is no such item. -/
  | itemNotFound (itemType id : String)
  /-- The id is taken within its type. -/
  | itemAlreadyExists (itemType id : String)
  /-- A handle of no open container, or of no open search. -/
  | invalidHandle (number : Int)
  /-- A request that makes no sense. -/
  | invalidStructure (fault : StructureFault)
  /-- A query that makes no sense. -/
  | invalidQuery (fault : QueryFault)
  /-- The storage itself fails. -/
  | io (text : String)
deriving Repr, Inhabited

/-- The wording of a fault. -/
def StructureFault.message : StructureFault → String
  | emptyName => "empty container name"
  | config => "config: " ++ jsonFault
  | credentials => "credentials: " ++ jsonFault
  | page => jsonFault

namespace CallError

/-- The wording of an error. -/
def message : CallError → String
  | containerNotFound name => "Container not found: " ++ name
  | containerAlreadyExists name => "Container already exists: " ++ name
  | containerAlreadyOpen name => "Container already open: " ++ name
  | itemNotFound itemType id => "Item not found: " ++ itemType ++ "/" ++ id
  | itemAlreadyExists itemType id => "Item already exists: " ++ itemType ++ "/" ++ id
  | invalidHandle number => s!"Invalid handle: {number}"
  | invalidStructure fault => "Invalid structure: " ++ fault.message
  | invalidQuery fault => "Invalid query: " ++ fault.message
  | io text => "IO error: " ++ text

/-- The number that stands for the kind of error. -/
def code : CallError → Nat
  | invalidHandle _ => 112
  | invalidStructure _ => 113
  | io _ => 114
  | containerAlreadyExists _ => 203
  | containerNotFound _ => 204
  | containerAlreadyOpen _ => 206
  | itemNotFound _ _ => 212
  | itemAlreadyExists _ _ => 213
  | invalidQuery _ => 300

/-- The kind of an error, in one word. -/
def kind : CallError → String
  | containerNotFound _ => "ContainerNotFound"
  | containerAlreadyExists _ => "ContainerAlreadyExists"
  | containerAlreadyOpen _ => "ContainerAlreadyOpen"
  | itemNotFound _ _ => "ItemNotFound"
  | itemAlreadyExists _ _ => "ItemAlreadyExists"
  | invalidHandle _ => "InvalidHandle"
  | invalidStructure _ => "InvalidStructure"
  | invalidQuery _ => "InvalidQuery"
  | io _ => "Io"

/-- Whether the error says that the container is not there. -/
def meansAbsent : CallError → Bool
  | containerNotFound _ => true
  | _ => false

end CallError

end Soak
