import Soak.Attributes
import Soak.Query.Like

/-!
# Queries on attributes

A query is a condition on the attributes of an item.  The operators on an attribute hold
only if the attribute is present, so that being unequal is not the negation of being
equal.  Texts are ordered by their code points.
-/

namespace Soak

/-- A condition on attributes. -/
inductive Query where
  /-- All of the conditions. -/
  | and (parts : List Query)
  /-- One of the conditions. -/
  | or (parts : List Query)
  /-- Not the condition. -/
  | not (part : Query)
  /-- The attribute has the value. -/
  | eq (name value : String)
  /-- The attribute has another value. -/
  | neq (name value : String)
  /-- The attribute is greater. -/
  | gt (name value : String)
  /-- The attribute is greater or has the value. -/
  | gte (name value : String)
  /-- The attribute is less. -/
  | lt (name value : String)
  /-- The attribute is less or has the value. -/
  | lte (name value : String)
  /-- The attribute has one of the values. -/
  | oneOf (name : String) (values : List String)
  /-- The attribute matches the pattern. -/
  | like (name pattern : String)
deriving Repr, Inhabited

namespace Query

/-- Whether an attribute is present and satisfies a test. -/
def holdsOf (attributes : Attributes) (name : String) (test : String → Bool) : Bool :=
  match attributes[name]? with
  | some value => test value
  | none => false

mutual

/-- Whether attributes satisfy a query. -/
def holds (attributes : Attributes) : Query → Bool
  | .and parts => allHold attributes parts
  | .or parts => anyHolds attributes parts
  | .not part => !holds attributes part
  | .eq name value => holdsOf attributes name fun t => t = value
  | .neq name value => holdsOf attributes name fun t => t ≠ value
  | .gt name value => holdsOf attributes name fun t => value < t
  | .gte name value => holdsOf attributes name fun t => ¬t < value
  | .lt name value => holdsOf attributes name fun t => t < value
  | .lte name value => holdsOf attributes name fun t => ¬value < t
  | .oneOf name values => holdsOf attributes name values.contains
  | .like name pattern => holdsOf attributes name fun t => Soak.like t pattern

/-- Whether attributes satisfy every query of a list. -/
def allHold (attributes : Attributes) : List Query → Bool
  | [] => true
  | q :: rest => holds attributes q && allHold attributes rest

/-- Whether attributes satisfy a query of a list. -/
def anyHolds (attributes : Attributes) : List Query → Bool
  | [] => false
  | q :: rest => holds attributes q || anyHolds attributes rest

end

end Query

end Soak
