import Soak.Json.Printer
import Soak.Query.Basic

/-!
# Reading queries

A query is written as a JSON object.  Its members are conditions that all have to hold:
`$and` and `$or` with an array of objects, `$not` with an object, and any other name that
does not begin with a dollar sign with a text or an object of one operator.  A blank text
is the query that everything satisfies.

The first fault in the order of the members, which the reader sorts by name, decides the
error.
-/

namespace Soak

/-- What can be wrong with a query. -/
inductive QueryFault where
  /-- The text is no JSON text. -/
  | malformed
  /-- The value is no object. -/
  | notObject (value : Json)
  /-- `$not` has something else than an object. -/
  | notNeedsObject
  /-- A combinator has something else than an array. -/
  | combinatorNeedsArray
  /-- The array of a combinator has something else than objects. -/
  | operandNotObject
  /-- There is no such operator. -/
  | unknownOperator (name : String)
  /-- A condition on an attribute is neither a text nor an object of one operator. -/
  | unsupportedCondition (name : String)
  /-- An operator has something else than a text. -/
  | operandNotText (value : Json)
  /-- `$in` has something else than an array. -/
  | membersNotArray
deriving Repr, Inhabited

/-- The wording of a fault. -/
def QueryFault.message : QueryFault → String
  | malformed => jsonFault
  | notObject value => "expected object, got " ++ value.compress
  | notNeedsObject => "$not expects an object"
  | combinatorNeedsArray => "combinator expects an array"
  | operandNotObject => "combinator operands must be objects"
  | unknownOperator name => "unknown operator " ++ name
  | unsupportedCondition name => "unsupported condition for tag " ++ name
  | operandNotText value => "expected string operand, got " ++ value.compress
  | membersNotArray => "$in expects an array"

namespace Query

/-- The text that an operator compares with. -/
def operand : Json → Except QueryFault String
  | .str s => .ok s
  | j => .error (.operandNotText j)

/-- The texts of an array. -/
def operands : List Json → Except QueryFault (List String)
  | [] => .ok []
  | j :: rest =>
    match operand j with
    | .error e => .error e
    | .ok s =>
      match operands rest with
      | .error e => .error e
      | .ok ss => .ok (s :: ss)

/-- The condition of one operator on an attribute. -/
def ofOperator (name op : String) (value : Json) : Except QueryFault Query :=
  let withText (make : String → String → Query) : Except QueryFault Query :=
    match operand value with
    | .ok s => .ok (make name s)
    | .error e => .error e
  match op with
  | "$eq" => withText .eq
  | "$neq" => withText .neq
  | "$gt" => withText .gt
  | "$gte" => withText .gte
  | "$lt" => withText .lt
  | "$lte" => withText .lte
  | "$like" => withText .like
  | "$in" =>
    match value with
    | .arr items =>
      match operands items with
      | .ok values => .ok (.oneOf name values)
      | .error e => .error e
    | _ => .error .membersNotArray
  | other => .error (.unknownOperator other)

/-- The condition that a member states of an attribute. -/
def ofCondition (name : String) : Json → Except QueryFault Query
  | .str s => .ok (.eq name s)
  | .obj [(op, value)] => ofOperator name op value
  | _ => .error (.unsupportedCondition name)

/-- Conditions that all have to hold; a single one stands for itself. -/
def conjunction : List Query → Query
  | [q] => q
  | qs => .and qs

mutual

/-- The query of a value. -/
def ofJson : Json → Except QueryFault Query
  | .obj members =>
    match ofMembers members with
    | .ok qs => .ok (conjunction qs)
    | .error e => .error e
  | j => .error (.notObject j)

/-- The query of one member. -/
def ofMember (name : String) (value : Json) : Except QueryFault Query :=
  if name = "$and" then
    match value with
    | .arr items =>
      match ofItems items with
      | .ok qs => .ok (.and qs)
      | .error e => .error e
    | _ => .error .combinatorNeedsArray
  else if name = "$or" then
    match value with
    | .arr items =>
      match ofItems items with
      | .ok qs => .ok (.or qs)
      | .error e => .error e
    | _ => .error .combinatorNeedsArray
  else if name = "$not" then
    match value with
    | .obj members =>
      match ofMembers members with
      | .ok qs => .ok (.not (conjunction qs))
      | .error e => .error e
    | _ => .error .notNeedsObject
  else if name.toList.head? = some '$' then .error (.unknownOperator name)
  else ofCondition name value

/-- The queries of all members. -/
def ofMembers : List (String × Json) → Except QueryFault (List Query)
  | [] => .ok []
  | (name, value) :: rest =>
    match ofMember name value with
    | .error e => .error e
    | .ok q =>
      match ofMembers rest with
      | .error e => .error e
      | .ok qs => .ok (q :: qs)

/-- The queries of an array of objects. -/
def ofItems : List Json → Except QueryFault (List Query)
  | [] => .ok []
  | .obj members :: rest =>
    match ofMembers members with
    | .error e => .error e
    | .ok qs =>
      match ofItems rest with
      | .error e => .error e
      | .ok others => .ok (conjunction qs :: others)
  | _ :: _ => .error .operandNotObject

end

/-- The query of a text. -/
def parse (text : String) : Except QueryFault Query :=
  if Text.allBlank text then .ok (.and [])
  else
    match Json.ofText? text with
    | some j => ofJson j
    | none => .error .malformed

end Query

end Soak
