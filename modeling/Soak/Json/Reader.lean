import Soak.Json.Basic

/-!
# Reading JSON text

A strict reader of the JSON grammar.  White space is only space, tab, line feed and
carriage return; a number is an integer if it is written as one and fits 64 bits, and the
double that `Binary64.scaled` computes otherwise.  Arrays and objects denote something up
to a nesting of `Json.maxDepth`; a deeper one is still well formed, so that it may stand in
a value that is skipped.

`Json.document?` gives the text as it is written, `Json.ofText?` its generic value.
-/

namespace Soak.Json

/-- How deep arrays and objects may nest and denote something. -/
def maxDepth : Nat :=
  127

/-- The white space between tokens. -/
def isSpace (c : Char) : Bool :=
  c = ' ' || c = '\t' || c = '\n' || c = '\r'

/-- The text after the white space at its start. -/
def skipSpace (cs : List Char) : List Char :=
  cs.dropWhile isSpace

/-- The value of a hexadecimal digit. -/
def hexDigit? (c : Char) : Option Nat :=
  if '0' ≤ c ∧ c ≤ '9' then some (c.toNat - '0'.toNat)
  else if 'a' ≤ c ∧ c ≤ 'f' then some (c.toNat - 'a'.toNat + 10)
  else if 'A' ≤ c ∧ c ≤ 'F' then some (c.toNat - 'A'.toNat + 10)
  else none

/-- The number that four hexadecimal digits write. -/
def hexUnit? (a b c d : Char) : Option Nat := do
  return (((← hexDigit? a) * 16 + (← hexDigit? b)) * 16 + (← hexDigit? c)) * 16 + (← hexDigit? d)

/-- The character that a one-letter escape stands for. -/
def shortEscape? : Char → Option Char
  | '"' => some '"'
  | '\\' => some '\\'
  | '/' => some '/'
  | 'b' => some '\x08'
  | 'f' => some '\x0c'
  | 'n' => some '\n'
  | 'r' => some '\r'
  | 't' => some '\t'
  | _ => none

/-- The code points of a string literal, surrogates still unpaired, and the text after
its closing quote.  Control characters have to be escaped. -/
def stringCodes : List Char → Option (List Nat × List Char)
  | [] => none
  | '"' :: rest => some ([], rest)
  | '\\' :: 'u' :: a :: b :: c :: d :: rest =>
    match hexUnit? a b c d, stringCodes rest with
    | some unit, some (codes, after) => some (unit :: codes, after)
    | _, _ => none
  | '\\' :: e :: rest =>
    match shortEscape? e, stringCodes rest with
    | some c, some (codes, after) => some (c.toNat :: codes, after)
    | _, _ => none
  | c :: rest =>
    if c.toNat < 0x20 || c = '\\' then none
    else (stringCodes rest).map fun (codes, after) => (c.toNat :: codes, after)

/-- The characters of a list of code points: a high surrogate joins the low one after it,
and no surrogate stands alone. -/
def joinSurrogates : List Nat → Option (List Char)
  | [] => some []
  | high :: low :: rest =>
    if 0xD800 ≤ high ∧ high < 0xDC00 then
      if 0xDC00 ≤ low ∧ low < 0xE000 then
        (joinSurrogates rest).map fun cs =>
          Char.ofNat (0x10000 + (high - 0xD800) * 0x400 + (low - 0xDC00)) :: cs
      else none
    else if 0xDC00 ≤ high ∧ high < 0xE000 then none
    else (joinSurrogates (low :: rest)).map (Char.ofNat high :: ·)
  | [code] => if 0xD800 ≤ code ∧ code < 0xE000 then none else some [Char.ofNat code]

/-- The string of a list of code points. -/
def stringOf? (codes : List Nat) : Option String :=
  (joinSurrogates codes).map String.ofList

/-- The digits at the start of a text, and the rest of it. -/
def digits (cs : List Char) : List Char × List Char :=
  (cs.takeWhile Char.isDigit, cs.dropWhile Char.isDigit)

/-- The number that a list of digits writes. -/
def digitsValue (ds : List Char) : Nat :=
  ds.foldl (fun n d => n * 10 + (d.toNat - '0'.toNat)) 0

/-- The part of a number after the point, with its point; empty if there is none. -/
def fractionPart : List Char → Option (List Char × List Char)
  | '.' :: rest =>
    match digits rest with
    | ([], _) => none
    | (ds, after) => some (ds, after)
  | cs => some ([], cs)

/-- The exponent of a number, if it has one. -/
def exponentPart (cs : List Char) : Option (Option Int × List Char) :=
  let unsigned (rest : List Char) (sign : Int) : Option (Option Int × List Char) :=
    match digits rest with
    | ([], _) => none
    | (ds, after) => some (some (sign * digitsValue ds), after)
  let signed : List Char → Option (Option Int × List Char)
    | '+' :: rest => unsigned rest 1
    | '-' :: rest => unsigned rest (-1)
    | rest => unsigned rest 1
  match cs with
  | 'e' :: rest => signed rest
  | 'E' :: rest => signed rest
  | _ => some (none, cs)

/-- The number that digits write behind those of `n`, as far as it fits 64 bits, and the
digits that are left over. -/
def absorb (n : Nat) : List Char → Nat × List Char
  | [] => (n, [])
  | d :: ds =>
    let next := n * 10 + (d.toNat - '0'.toNat)
    if next < 2 ^ 64 then absorb next ds else (n, d :: ds)

/-- The double of a significand and a power of ten, if it is finite. -/
def realOf (negative : Bool) (significand : Nat) (power : Int) : Json :=
  let x := Binary64.scaled significand power
  if x.isFinite then .real (if negative then x.neg else x) else .unreadable

/-- The value of a number from its sign, its digits before and after the point, and its
exponent.  The significand of a double has the first digits that fit 64 bits; digits left
over before the point count in the power of ten only, and those behind it do not count. -/
def numberOf (negative : Bool) (whole fraction : List Char) (exponent : Option Int) : Json :=
  let (n, extra) := absorb 0 whole
  if fraction.isEmpty && exponent.isNone && extra.isEmpty
      && (!negative || 0 < n && n ≤ 2 ^ 63) then
    .int (if negative then -n else n)
  else
    let (significand, unread) := absorb n fraction
    let places : Nat := fraction.length - unread.length
    realOf negative significand (exponent.getD 0 + extra.length - places)

/-- A number after its sign, without leading zeros. -/
def readNumber (negative : Bool) (cs : List Char) : Option (Json × List Char) :=
  match digits cs with
  | ([], _) => none
  | ('0' :: _ :: _, _) => none
  | (whole, rest) => do
    let (fraction, rest) ← fractionPart rest
    let (exponent, rest) ← exponentPart rest
    return (numberOf negative whole fraction exponent, rest)

/-- An array or an object that may hold `depth` levels, itself included; without any level
left it denotes nothing. -/
def nested (depth : Nat) (j : Json) : Json :=
  if depth = 0 then .unreadable else j

mutual

/-- One value, after its white space, and the text behind it.  The first argument bounds
the number of calls, the second is the number of levels that denote something. -/
def readValue : Nat → Nat → List Char → Option (Json × List Char)
  | 0, _, _ => none
  | fuel + 1, depth, cs =>
    match skipSpace cs with
    | 'n' :: 'u' :: 'l' :: 'l' :: rest => some (.null, rest)
    | 't' :: 'r' :: 'u' :: 'e' :: rest => some (.bool true, rest)
    | 'f' :: 'a' :: 'l' :: 's' :: 'e' :: rest => some (.bool false, rest)
    | '"' :: rest =>
      (stringCodes rest).map fun (codes, after) =>
        ((stringOf? codes).elim .unreadable .str, after)
    | '-' :: rest => readNumber true rest
    | '[' :: rest =>
      match skipSpace rest with
      | ']' :: after => some (nested depth (.arr []), after)
      | rest => (readItems fuel (depth - 1) rest).map fun (items, after) =>
          (nested depth (.arr items), after)
    | '\x7b' :: rest =>
      match skipSpace rest with
      | '\x7d' :: after => some (nested depth (.obj []), after)
      | rest => (readMembers fuel (depth - 1) rest).map fun (members, after) =>
          (nested depth (members.elim .unreadable .obj), after)
    | rest => readNumber false rest

/-- The items of an array, up to and with its closing bracket. -/
def readItems : Nat → Nat → List Char → Option (List Json × List Char)
  | 0, _, _ => none
  | fuel + 1, depth, cs =>
    match readValue fuel depth cs with
    | none => none
    | some (item, rest) =>
      match skipSpace rest with
      | ']' :: after => some ([item], after)
      | ',' :: after =>
        (readItems fuel depth after).map fun (items, after) => (item :: items, after)
      | _ => none

/-- The members of an object, up to and with its closing brace; nothing in their place if
a key denotes no string. -/
def readMembers : Nat → Nat → List Char → Option (Option (List (String × Json)) × List Char)
  | 0, _, _ => none
  | fuel + 1, depth, cs =>
    match skipSpace cs with
    | '"' :: rest =>
      match stringCodes rest with
      | none => none
      | some (codes, rest) =>
        match skipSpace rest with
        | ':' :: rest =>
          match readValue fuel depth rest with
          | none => none
          | some (value, rest) =>
            let member := (stringOf? codes).map fun key => (key, value)
            match skipSpace rest with
            | '\x7d' :: after => some (member.map ([·]), after)
            | ',' :: after =>
              (readMembers fuel depth after).map fun (members, after) =>
                ((do return (← member) :: (← members)), after)
            | _ => none
        | _ => none
    | _ => none

end

/-- A whole text as one document. -/
def document? (text : String) : Option Json :=
  let cs := text.toList
  match readValue (2 * cs.length + 2) maxDepth cs with
  | some (j, rest) => if (skipSpace rest).isEmpty then some j else none
  | none => none

/-- A whole text as one generic value. -/
def ofText? (text : String) : Option Json :=
  (document? text).bind normal

end Soak.Json
