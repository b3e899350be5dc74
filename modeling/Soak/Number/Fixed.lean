import Soak.Number.Binary64

/-!
# Doubles with a fixed number of decimal places

The exact value of the double is rounded to the last place, a half to the even neighbour.
-/

namespace Soak.Binary64

/-- A number of `places` decimal places, given in units of the last place. -/
def placed (places units : Nat) : String :=
  let digits := Nat.toDigits 10 units
  let padded := List.replicate (places + 1 - digits.length) '0' ++ digits
  let split := padded.length - places
  String.ofList (padded.take split) ++ "." ++ String.ofList (padded.drop split)

/-- The text of a non-negative double with `places` decimal places. -/
def fixed (places : Nat) (x : Binary64) : String :=
  if ¬x.isFinite then "inf"
  else placed places (roundHalfEven (x.ratio.1 * 10 ^ places) x.ratio.2)

example : fixed 2 (ofRatio 125 1000) = "0.12" := by decide +kernel
example : fixed 2 (ofRatio 375 1000) = "0.38" := by decide +kernel
example : fixed 2 (ofNat 1000) = "1000.00" := by decide +kernel

end Soak.Binary64
