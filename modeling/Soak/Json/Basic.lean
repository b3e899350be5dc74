import Std.Data.ExtTreeMap
import Soak.Number.Binary64

/-!
# JSON values

A value keeps the members of an object as a list.  Read as a document the list is the
text's own order with repetitions; `normal` gives the generic value, where the members
are sorted by key and of a repeated key the last one counts.  `fields` is the other
reading, by a record with known field names, which refuses a repeated field.
-/

namespace Soak

/-- A JSON value. -/
inductive Json where
  /-- The literal `null`. -/
  | null
  /-- A truth value. -/
  | bool (value : Bool)
  /-- An integer literal within 64 bits, signed or unsigned. -/
  | int (value : Int)
  /-- Any other number, as a double. -/
  | real (value : Binary64)
  /-- A string. -/
  | str (value : String)
  /-- An array. -/
  | arr (items : List Json)
  /-- An object. -/
  | obj (members : List (String × Json))
  /-- A text that is well formed but denotes nothing: a number beyond the doubles, a string
  with an unpaired surrogate, an array or an object that is nested too deep.  It is
  tolerated only where a value is skipped. -/
  | unreadable
deriving BEq, Repr, Inhabited

namespace Json

/-- Members sorted by key; of a repeated key the last member counts. -/
def sortMembers (ms : List (String × Json)) : List (String × Json) :=
  (Std.ExtTreeMap.ofList ms compare).toList

mutual

/-- The generic value of a document, if all of its parts denote something. -/
def normal : Json → Option Json
  | .arr items => (normalItems items).map .arr
  | .obj members => (normalMembers members).map fun ms => .obj (sortMembers ms)
  | .unreadable => none
  | j => some j

/-- The generic values of a list of documents. -/
def normalItems : List Json → Option (List Json)
  | [] => some []
  | j :: rest =>
    match normal j, normalItems rest with
    | some j, some rest => some (j :: rest)
    | _, _ => none

/-- The members with their generic values. -/
def normalMembers : List (String × Json) → Option (List (String × Json))
  | [] => some []
  | (key, j) :: rest =>
    match normal j, normalMembers rest with
    | some j, some rest => some ((key, j) :: rest)
    | _, _ => none

end

/-- The value of a member. -/
def get? (key : String) : Json → Option Json
  | .obj members => members.lookup key
  | _ => none

/-- The known fields of a record, by name.  A record is an object, whose members with
other names are skipped and whose known members occur once, or an array of the fields in
their order, the last ones left out. -/
def fields (names : List String) : Json → Option (List (String × Json))
  | .obj members =>
    let known := members.filter fun m => names.contains m.1
    if (known.map Prod.fst).Nodup then some known else none
  | .arr items => if items.length ≤ names.length then some (names.zip items) else none
  | _ => none

/-- An integer in a range. -/
def intIn? (low high : Int) : Json → Option Int
  | .int i => if low ≤ i ∧ i ≤ high then some i else none
  | _ => none

/-- A natural number below `bound`. -/
def natBelow? (bound : Nat) : Json → Option Nat
  | .int (.ofNat n) => if n < bound then some n else none
  | _ => none

/-- An unsigned number of 64 bits. -/
def nat64? : Json → Option Nat :=
  natBelow? (2 ^ 64)

/-- An unsigned number of 32 bits. -/
def nat32? : Json → Option Nat :=
  natBelow? (2 ^ 32)

/-- A signed number of 64 bits. -/
def int64? : Json → Option Int :=
  intIn? (-2 ^ 63) (2 ^ 63 - 1)

/-- Any number, as the nearest double. -/
def double? : Json → Option Binary64
  | .int i => some (.ofInt i)
  | .real x => some x
  | _ => none

/-- A string. -/
def str? : Json → Option String
  | .str s => some s
  | _ => none

/-- A truth value. -/
def bool? : Json → Option Bool
  | .bool b => some b
  | _ => none

/-- An array of values of one kind. -/
def list? {α : Type} (item? : Json → Option α) : Json → Option (List α)
  | .arr items => items.mapM item?
  | _ => none

/-- A value that may be `null`. -/
def optional? {α : Type} (item? : Json → Option α) : Json → Option (Option α)
  | .null => some none
  | j => (item? j).map some

/-- The name of a choice without contents: a string, or an object whose only member has
that name and the value `null`. -/
def choice? : Json → Option String
  | .str s => some s
  | .obj [(s, .null)] => some s
  | _ => none

/-- A field that is decoded if present and has a default otherwise. -/
def fieldOr {α : Type} (fs : List (String × Json)) (name : String) (item? : Json → Option α)
    (default : α) : Option α :=
  match fs.lookup name with
  | some j => item? j
  | none => some default

/-- A field that has to be present. -/
def field? {α : Type} (fs : List (String × Json)) (name : String) (item? : Json → Option α) :
    Option α :=
  (fs.lookup name).bind item?

end Json

end Soak
