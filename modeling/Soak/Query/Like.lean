import Soak.Number.Instances

/-!
# Patterns with a wildcard

A pattern is cut at its percent signs into segments, and a text matches if it is the
segments in their order with any texts between them.  The first and the last segment are
fixed to the ends; each of the others is looked for as far to the left as possible in what
is left of the text, which never loses a match.
-/

namespace Soak.Like

/-- The segments of a pattern, of which there is at least one. -/
def segments : List Char → List (List Char)
  | [] => [[]]
  | c :: rest =>
    if c = '%' then [] :: segments rest
    else
      match segments rest with
      | first :: others => (c :: first) :: others
      | [] => [[c]]

/-- The text behind a segment that it begins with. -/
def after? : List Char → List Char → Option (List Char)
  | [], text => some text
  | _ :: _, [] => none
  | c :: segment, d :: text => if c = d then after? segment text else none

/-- The text behind the leftmost occurrence of a segment. -/
def afterFirst? (segment : List Char) : List Char → Option (List Char)
  | [] => after? segment []
  | c :: text =>
    match after? segment (c :: text) with
    | some rest => some rest
    | none => afterFirst? segment text

/-- The number of bytes of a text in UTF-8. -/
def byteLength (text : List Char) : Nat :=
  (text.map Char.utf8Size).sum

/-- Whether a text ends in a segment. -/
def endsIn (segment text : List Char) : Bool :=
  (after? segment.reverse text.reverse).isSome

/-- Whether the middle segments occur one behind the other and the last one after them at
the end. -/
def matchesRest (text : List Char) : List (List Char) → Bool
  | [] => text.isEmpty
  | [last] => endsIn last text
  | segment :: others =>
    match afterFirst? segment text with
    | some rest => matchesRest rest others
    | none => false

/-- Whether a text has a given first segment and, behind it, the others.  A text shorter
than the first and the last segment together is refused at once. -/
def matchesFrom (text first : List Char) (others : List (List Char)) : Bool :=
  match after? first text with
  | none => false
  | some rest =>
    if byteLength text < byteLength first + byteLength (others.getLastD []) then false
    else matchesRest rest others

end Like

/-- Whether a text matches a pattern in which a percent sign stands for any text. -/
def like (text pattern : String) : Bool :=
  match Like.segments pattern.toList with
  | [] | [_] => text = pattern
  | first :: others => Like.matchesFrom text.toList first others

example : like "abcabd" "ab%abd" = true := by decide +kernel
example : like "aba" "ab%ba" = false := by decide +kernel
example : like "abc" "abc" = true ∧ like "" "%%" = true := by decide +kernel

end Soak
