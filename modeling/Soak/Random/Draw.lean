import Soak.Number.Binary64
import Soak.Random.Generator

/-!
# Draws from a generator

Numbers of a range and alphanumeric characters are drawn by rejection: words are taken
until one falls into the zone that covers all results equally often.  At least half of
all words are accepted, so `Generator.patience` of them are more than enough; should they
all be rejected, the last one is used as it is.
-/

namespace Soak.Generator

/-- How many words a draw may reject. -/
def patience : Nat :=
  256

/-- A double from zero up to and without one, a multiple of `2 ^ -53`. -/
def unitDouble (g : Generator) : Binary64 × Generator :=
  let (w, g) := g.nextLong
  (.ofRatio (w.toNat / 2 ^ 11) (2 ^ 53), g)

/-- The largest number that the low half of a product may have for the draw to be
accepted: one below `range` shifted to the top of a word. -/
def zone (range : Nat) : Nat :=
  range * 2 ^ (63 - range.log2) - 1

/-- A number below a positive `range` of at most 64 bits: the high half of the product of
`range` with a word whose low half falls into the zone. -/
def belowFuel (range : Nat) : Nat → Generator → Nat × Generator
  | 0, g =>
    let (w, g) := g.nextLong
    (w.toNat * range / 2 ^ 64, g)
  | fuel + 1, g =>
    let (w, g') := g.nextLong
    let product := w.toNat * range
    if product % 2 ^ 64 ≤ zone range then (product / 2 ^ 64, g') else belowFuel range fuel g'

/-- A number below a positive `range`; all 64-bit numbers are a word as it comes. -/
def below (range : Nat) (g : Generator) : Nat × Generator :=
  if range < 2 ^ 64 then belowFuel range patience g
  else
    let (w, g) := g.nextLong
    (w.toNat, g)

theorem belowFuel_lt {range : Nat} (h : 0 < range) (fuel : Nat) (g : Generator) :
    (belowFuel range fuel g).1 < range := by
  have bound (w : UInt64) : w.toNat * range / 2 ^ 64 < range := by
    rw [Nat.div_lt_iff_lt_mul (by decide), Nat.mul_comm range]
    exact Nat.mul_lt_mul_of_pos_right w.toNat_lt h
  induction fuel generalizing g with
  | zero => exact bound _
  | succ fuel ih =>
    simp only [belowFuel]
    split
    · exact bound _
    · exact ih _

/-- A natural number from `low` to `high`, both included. -/
def natIn (low high : Nat) (g : Generator) : Nat × Generator :=
  let (offset, g) := g.below (high + 1 - low)
  (low + offset, g)

/-- A signed 64-bit number from `low` to `high`, both included. -/
def intIn (low high : Int) (g : Generator) : Int × Generator :=
  let (offset, g) := g.below (high + 1 - low).toNat
  if (high + 1 - low).toNat < 2 ^ 64 then (low + offset, g)
  else (Int.bmod offset (2 ^ 64), g)

/-- The alphanumeric characters, in the order of the six-bit numbers that draw them. -/
def alphabet : List Char :=
  "ABCDEFGHIJKLMNOPQRSTUVWXYZabcdefghijklmnopqrstuvwxyz0123456789".toList

/-- The letter of a word: its six highest bits index the alphabet. -/
def letterOf? (w : UInt32) : Option Char :=
  alphabet[(w >>> 26).toNat]?

/-- An alphanumeric character. -/
def letterFuel : Nat → Generator → Char × Generator
  | 0, g =>
    let (w, g) := g.nextWord
    ((letterOf? w).getD 'A', g)
  | fuel + 1, g =>
    let (w, g) := g.nextWord
    match letterOf? w with
    | some c => (c, g)
    | none => letterFuel fuel g

/-- A number of alphanumeric characters. -/
def letters : Nat → Generator → List Char × Generator
  | 0, g => ([], g)
  | n + 1, g =>
    let (c, g) := letterFuel patience g
    let (cs, g) := letters n g
    (c :: cs, g)

/-- A text of alphanumeric characters. -/
def alphanumeric (length : Nat) (g : Generator) : String × Generator :=
  let (cs, g) := letters length g
  (String.ofList cs, g)

theorem length_letters (n : Nat) (g : Generator) : (letters n g).1.length = n := by
  induction n generalizing g with
  | zero => rfl
  | succ n ih => simp [letters, ih]

end Soak.Generator
