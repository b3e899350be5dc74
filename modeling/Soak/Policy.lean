import Soak.Random.Draw
import Soak.SetupError

/-!
# The oscillation of item counts

A policy keeps the number of items of a container in a band: low counts always grow,
counts of the mixed band grow with a given probability and shrink otherwise, and counts
above it always shrink.
-/

namespace Soak

/-- What a lifecycle iteration does to the items of its container. -/
inductive Mutation where
  /-- Add an item. -/
  | add
  /-- Delete the newest item. -/
  | delete
deriving DecidableEq, Repr

/-- The bands of item counts. -/
structure Policy where
  /-- Counts up to this one always grow. -/
  alwaysAddMax : Int
  /-- Counts above `alwaysAddMax` and up to this one form the mixed band. -/
  mixedMax : Int
  /-- The probability of growing in the mixed band. -/
  addProbability : Binary64
deriving DecidableEq, Repr

namespace Policy

/-- Up to six items always grow, up to nine grow three times out of four. -/
def standard : Policy :=
  ⟨6, 9, ⟨0x3fe8000000000000⟩⟩

/-- Whether the bands are in order and the probability is one. -/
def validate (p : Policy) : Except SetupError Unit :=
  if p.alwaysAddMax < 0 then .error (.policy (.negativeBand p.alwaysAddMax))
  else if p.mixedMax < p.alwaysAddMax then
    .error (.policy (.bandsOutOfOrder p.mixedMax p.alwaysAddMax))
  else if !(Binary64.zero.le p.addProbability && p.addProbability.le (.ofNat 1)) then
    .error (.policy (.probability p.addProbability))
  else .ok ()

/-- The mutation for a container with `counter` items; only the mixed band draws. -/
def choose (p : Policy) (counter : Int) (g : Generator) : Mutation × Generator :=
  if counter ≤ p.alwaysAddMax then (.add, g)
  else if counter ≤ p.mixedMax then
    let (draw, g) := g.unitDouble
    (if draw.lt p.addProbability then .add else .delete, g)
  else (.delete, g)

/-- The highest count that a container can reach. -/
def ceiling (p : Policy) : Int :=
  p.mixedMax + 1

end Policy

end Soak
