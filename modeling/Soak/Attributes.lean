import Soak.Json.Reader
import Soak.SetupError
import Soak.Text.Blank

/-!
# Attributes

The attributes of an item map names to texts.  In JSON they are an object of strings.
-/

namespace Soak

/-- Attribute names with their values. -/
abbrev Attributes : Type :=
  Std.ExtTreeMap String String compare

namespace Attributes

/-- The attributes of a list of names and values, where the last value of a name counts. -/
def ofPairs (pairs : List (String × String)) : Attributes :=
  Std.ExtTreeMap.ofList pairs compare

/-- The attributes as a JSON object. -/
def toJson (attributes : Attributes) : Json :=
  .obj (attributes.toList.map fun (name, value) => (name, .str value))

/-- A name and its value, from a member of an object. -/
def pair? (member : String × Json) : Option (String × String) :=
  member.2.str?.map fun value => (member.1, value)

/-- The attributes of a JSON object of strings. -/
def ofJson? : Json → Option Attributes
  | .obj members => (members.mapM pair?).map ofPairs
  | _ => none

/-- The attributes that a text writes; a blank text writes none. -/
def parse (text : String) : Except SetupError Attributes :=
  if Text.allBlank text then .ok ∅
  else
    match (Json.document? text).bind ofJson? with
    | some attributes => .ok attributes
    | none => .error .malformed

/-- The attributes without those of the given names. -/
def without (attributes : Attributes) (names : List String) : Attributes :=
  names.foldl (fun rest name => rest.erase name) attributes

end Attributes

end Soak
