import Soak.Action
import Soak.Attributes

/-!
# The payload of an action

One text carries what an action works with: attributes as a JSON object, names of
attributes as an array or as the keys of an object, or a query.
-/

namespace Soak

/-- A payload, decoded for an action. -/
structure Payload where
  /-- The text as it was given. -/
  raw : String
  /-- The attributes. -/
  attributes : Attributes := ∅
  /-- The names of attributes. -/
  names : List String := []
deriving DecidableEq, Repr

namespace Payload

/-- The payload of an action.  The query of a search is left to the store. -/
def parse (action : Action) (raw : String) : Except SetupError Payload :=
  if action = .searchItems then .ok { raw }
  else if action = .deleteAttributes ∧ (Text.trimStart raw).toList.head? = some '[' then
    match (Json.document? raw).bind (Json.list? Json.str?) with
    | some names => .ok { raw, names }
    | none => .error .malformed
  else
    match Attributes.parse raw with
    | .ok attributes => .ok { raw, attributes, names := attributes.keys }
    | .error e => .error e

/-- The query of a search; a blank text asks for everything. -/
def query (p : Payload) : String :=
  if Text.allBlank p.raw then "\x7b\x7d" else p.raw

end Payload

end Soak
