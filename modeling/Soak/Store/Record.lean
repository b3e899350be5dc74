import Soak.Attributes
import Soak.Store.Error

/-!
# Items in answers

An answer shows an item as a record of the parts that were asked for.  A page of search
results holds some records and the number of all results, each of them only if it was
asked for.  Both are passed on as JSON values, and a page can be read back.
-/

namespace Soak

/-- Which parts of an item are asked for. -/
structure Item.Options where
  /-- Its type. -/
  retrieveType : Bool
  /-- Its value. -/
  retrieveValue : Bool
  /-- Its attributes. -/
  retrieveTags : Bool
deriving DecidableEq, Repr

/-- What is asked for in a search. -/
structure Search.Options where
  /-- The records. -/
  retrieveRecords : Bool
  /-- The number of all results. -/
  retrieveTotalCount : Bool
  /-- The type of each item. -/
  retrieveType : Bool
  /-- The value of each item. -/
  retrieveValue : Bool
  /-- The attributes of each item. -/
  retrieveTags : Bool
deriving DecidableEq, Repr

/-- An item as an answer shows it. -/
structure Item.Record where
  /-- The id. -/
  id : String
  /-- The type, if asked for. -/
  itemType : Option String := none
  /-- The value, if asked for. -/
  value : Option String := none
  /-- The attributes, if asked for. -/
  tags : Option Attributes := none
deriving DecidableEq, Repr

/-- A page of search results. -/
structure Search.Page where
  /-- The number of all results, if asked for. -/
  totalCount : Option Nat := none
  /-- The records of this page, if asked for. -/
  records : Option (List Item.Record) := none
deriving DecidableEq, Repr

namespace Item.Options

/-- Everything. -/
def all : Item.Options :=
  ⟨true, true, true⟩

/-- The value only. -/
def standard : Item.Options :=
  ⟨false, true, false⟩

/-- The names of the options in JSON. -/
def fieldNames : List String :=
  ["retrieveType", "retrieveValue", "retrieveTags"]

/-- Complete options. -/
def ofJson? (j : Json) : Option Item.Options := do
  let fs ← j.fields fieldNames
  return {
    retrieveType := ← Json.field? fs "retrieveType" Json.bool?
    retrieveValue := ← Json.field? fs "retrieveValue" Json.bool?
    retrieveTags := ← Json.field? fs "retrieveTags" Json.bool? }

/-- The options in JSON. -/
def toJson (o : Item.Options) : Json :=
  .obj [("retrieveType", .bool o.retrieveType), ("retrieveValue", .bool o.retrieveValue),
    ("retrieveTags", .bool o.retrieveTags)]

end Item.Options

namespace Search.Options

/-- Everything. -/
def all : Search.Options :=
  ⟨true, true, true, true, true⟩

/-- The records with their values, without the number of results. -/
def standard : Search.Options :=
  ⟨true, false, false, true, false⟩

/-- What is asked for of each item. -/
def itemOptions (o : Search.Options) : Item.Options :=
  ⟨o.retrieveType, o.retrieveValue, o.retrieveTags⟩

/-- Complete options. -/
def ofJson? (j : Json) : Option Search.Options := do
  let fs ← j.fields ["retrieveRecords", "retrieveTotalCount", "retrieveType", "retrieveValue",
    "retrieveTags"]
  return {
    retrieveRecords := ← Json.field? fs "retrieveRecords" Json.bool?
    retrieveTotalCount := ← Json.field? fs "retrieveTotalCount" Json.bool?
    retrieveType := ← Json.field? fs "retrieveType" Json.bool?
    retrieveValue := ← Json.field? fs "retrieveValue" Json.bool?
    retrieveTags := ← Json.field? fs "retrieveTags" Json.bool? }

/-- The options in JSON. -/
def toJson (o : Search.Options) : Json :=
  .obj [("retrieveRecords", .bool o.retrieveRecords),
    ("retrieveTotalCount", .bool o.retrieveTotalCount), ("retrieveType", .bool o.retrieveType),
    ("retrieveValue", .bool o.retrieveValue), ("retrieveTags", .bool o.retrieveTags)]

end Search.Options

namespace Item.Record

/-- A record; a part that is left out or `null` was not asked for. -/
def ofJson? (j : Json) : Option Item.Record := do
  let fs ← j.fields ["id", "type", "value", "tags"]
  return {
    id := ← Json.field? fs "id" Json.str?
    itemType := ← Json.fieldOr fs "type" (Json.optional? Json.str?) none
    value := ← Json.fieldOr fs "value" (Json.optional? Json.str?) none
    tags := ← Json.fieldOr fs "tags" (Json.optional? Attributes.ofJson?) none }

/-- A record in JSON, without the parts that were not asked for. -/
def toJson (r : Item.Record) : Json :=
  .obj ([("id", .str r.id)] ++ (r.itemType.map fun t => ("type", Json.str t)).toList
    ++ (r.value.map fun v => ("value", Json.str v)).toList
    ++ (r.tags.map fun t => ("tags", t.toJson)).toList)

end Item.Record

namespace Search.Page

/-- A page; what is left out or `null` was not asked for. -/
def ofJson? (j : Json) : Option Search.Page := do
  let fs ← j.fields ["totalCount", "records"]
  return {
    totalCount := ← Json.fieldOr fs "totalCount" (Json.optional? Json.nat64?) none
    records := ← Json.fieldOr fs "records" (Json.optional? (Json.list? Item.Record.ofJson?)) none }

/-- The page of a value. -/
def decode (j : Json) : Except CallError Search.Page :=
  match ofJson? j with
  | some page => .ok page
  | none => .error (.invalidStructure .page)

/-- A page in JSON. -/
def toJson (p : Search.Page) : Json :=
  .obj [("totalCount", p.totalCount.elim .null fun n => .int n),
    ("records", p.records.elim .null fun rs => .arr (rs.map Item.Record.toJson))]

/-- How many records the page holds. -/
def recordCount (p : Search.Page) : Nat :=
  p.records.elim 0 List.length

end Search.Page

end Soak
