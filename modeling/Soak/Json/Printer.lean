import Soak.Json.Basic
import Soak.Number.Shortest

/-!
# Printing JSON

`compress` writes a value on one line without spaces, `pretty` with a line for each
element and two spaces for each level.  Both write the members of an object in the order
in which the value lists them.
-/

namespace Soak.Json

/-- Doubles are positional while the power of ten of the first digit lies between `-5`
and `15`, and an integral one keeps `.0`.  Of two equally near decimals the even one is
written. -/
def realLayout : Binary64.Layout :=
  ⟨.even, fun power => -5 ≤ power && power ≤ 15, true⟩

/-- A control character as four hexadecimal digits. -/
def escapeUnit (c : Char) : List Char :=
  let n := c.toNat
  ['\\', 'u', '0', '0', Nat.digitChar (n / 16), Nat.digitChar (n % 16)]

/-- The written form of one character of a string. -/
def escape (c : Char) : List Char :=
  if c = '"' then ['\\', '"']
  else if c = '\\' then ['\\', '\\']
  else if c = '\x08' then ['\\', 'b']
  else if c = '\x0c' then ['\\', 'f']
  else if c = '\n' then ['\\', 'n']
  else if c = '\r' then ['\\', 'r']
  else if c = '\t' then ['\\', 't']
  else if c.toNat < 0x20 then escapeUnit c
  else [c]

/-- The written form of a string. -/
def quote (s : String) : String :=
  String.ofList ('"' :: (s.toList.flatMap escape ++ ['"']))

/-- The written form of a value that is no array and no object. -/
def atom : Json → String
  | .bool b => if b then "true" else "false"
  | .int i => toString i
  | .real x => Binary64.text realLayout x
  | .str s => quote s
  | _ => "null"

mutual

/-- A value on one line. -/
def compress : Json → String
  | .arr items => "[" ++ String.intercalate "," (compressItems items) ++ "]"
  | .obj members => "\x7b" ++ String.intercalate "," (compressMembers members) ++ "\x7d"
  | j => atom j

/-- Items, each on one line. -/
def compressItems : List Json → List String
  | [] => []
  | j :: rest => compress j :: compressItems rest

/-- Members, each on one line. -/
def compressMembers : List (String × Json) → List String
  | [] => []
  | (key, j) :: rest => (quote key ++ ":" ++ compress j) :: compressMembers rest

end

/-- The start of a line at a level. -/
def margin (level : Nat) : String :=
  "\n" ++ String.ofList (List.replicate (2 * level) ' ')

mutual

/-- A value over several lines, at a level. -/
def prettyAt (level : Nat) : Json → String
  | .arr [] => "[]"
  | .arr items =>
    "[" ++ String.intercalate "," (prettyItems (level + 1) items) ++ margin level ++ "]"
  | .obj [] => "\x7b\x7d"
  | .obj members =>
    "\x7b" ++ String.intercalate "," (prettyMembers (level + 1) members) ++ margin level ++ "\x7d"
  | j => atom j

/-- Items, each on lines of its own. -/
def prettyItems (level : Nat) : List Json → List String
  | [] => []
  | j :: rest => (margin level ++ prettyAt level j) :: prettyItems level rest

/-- Members, each on lines of its own. -/
def prettyMembers (level : Nat) : List (String × Json) → List String
  | [] => []
  | (key, j) :: rest =>
    (margin level ++ quote key ++ ": " ++ prettyAt level j) :: prettyMembers level rest

end

/-- A value over several lines. -/
def pretty (j : Json) : String :=
  prettyAt 0 j

end Soak.Json
