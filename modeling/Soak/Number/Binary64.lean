import Soak.Number.Instances

/-!
# Double precision numbers as bit patterns

A double is kept as its 64 bits, so that equality is decidable and every operation can be
computed by the kernel.  A finite double is `significand * 2 ^ scale`; arithmetic takes
the exact rational result and rounds it once, to the nearest double and in a tie to the
even one.  Only what the program needs is here: rounding a ratio, comparing, and the
product, sum and quotient of non-negative numbers.
-/

namespace Soak

/-- A double precision number, given by its bits: the sign, eleven bits of exponent and
fifty-two bits of fraction. -/
structure Binary64 where
  /-- The bit pattern. -/
  bits : UInt64
deriving DecidableEq, Repr

/-- A quotient rounded to the nearest integer, a half to the even neighbour. -/
def roundHalfEven (num den : Nat) : Nat :=
  let whole := num / den
  let rest := num % den
  if 2 * rest < den then whole
  else if den < 2 * rest then whole + 1
  else whole + whole % 2

namespace Binary64

/-- Whether the sign bit is set. -/
def isNegative (x : Binary64) : Bool :=
  2 ^ 63 ≤ x.bits.toNat

/-- The bits without the sign. -/
def magnitude (x : Binary64) : Nat :=
  x.bits.toNat % 2 ^ 63

/-- The magnitude of the infinities; a larger one is not a number. -/
def infinite : Nat :=
  2047 * 2 ^ 52

/-- Neither infinite nor not a number. -/
def isFinite (x : Binary64) : Bool :=
  x.magnitude < infinite

/-- Not a number. -/
def isNaN (x : Binary64) : Bool :=
  infinite < x.magnitude

/-- The integer `m` of a finite double `m * 2 ^ scale`. -/
def significand (x : Binary64) : Nat :=
  if x.magnitude / 2 ^ 52 = 0 then x.magnitude else x.magnitude % 2 ^ 52 + 2 ^ 52

/-- The power of two that the significand is multiplied with. -/
def scale (x : Binary64) : Int :=
  max (x.magnitude / 2 ^ 52 : Nat) 1 - 1075

/-- The absolute value of a finite double as a fraction. -/
def ratio (x : Binary64) : Nat × Nat :=
  (x.significand * 2 ^ x.scale.toNat, 2 ^ (-x.scale).toNat)

/-- Zero. -/
def zero : Binary64 :=
  ⟨0⟩

/-- The same number with the other sign. -/
def neg (x : Binary64) : Binary64 :=
  ⟨x.bits ^^^ 0x8000000000000000⟩

/-- The largest `e` with `2 ^ e ≤ num / den`. -/
def floorLog2 (num den : Nat) : Int :=
  let guess : Int := num.log2 - den.log2
  if den * 2 ^ guess.toNat ≤ num * 2 ^ (-guess).toNat then guess else guess - 1

/-- The double nearest to `num / den`, in a tie the one with an even significand; the
infinity if the quotient is beyond the range. -/
def ofRatio (num den : Nat) : Binary64 :=
  if num = 0 then zero
  else
    let q : Int := max (floorLog2 num den - 52) (-1074)
    let m := roundHalfEven (num * 2 ^ (-q).toNat) (den * 2 ^ q.toNat)
    ⟨UInt64.ofNat (min ((q + 1074).toNat * 2 ^ 52 + m) infinite)⟩

/-- The double nearest to a natural number. -/
def ofNat (n : Nat) : Binary64 :=
  ofRatio n 1

/-- The double nearest to an integer. -/
def ofInt : Int → Binary64
  | .ofNat n => ofNat n
  | .negSucc n => (ofNat (n + 1)).neg

/-- A number whose order is that of the values: the two zeros have the same one. -/
def orderKey (x : Binary64) : Int :=
  if x.isNegative then -(x.magnitude : Int) else x.magnitude

/-- The comparison `x ≤ y`, false if one of them is not a number. -/
def le (x y : Binary64) : Bool :=
  !x.isNaN && !y.isNaN && x.orderKey ≤ y.orderKey

/-- The comparison `x < y`, false if one of them is not a number. -/
def lt (x y : Binary64) : Bool :=
  !x.isNaN && !y.isNaN && x.orderKey < y.orderKey

/-- The rounded product of two finite non-negative doubles. -/
def mul (x y : Binary64) : Binary64 :=
  ofRatio (x.ratio.1 * y.ratio.1) (x.ratio.2 * y.ratio.2)

/-- The rounded sum of two finite non-negative doubles. -/
def add (x y : Binary64) : Binary64 :=
  ofRatio (x.ratio.1 * y.ratio.2 + y.ratio.1 * x.ratio.2) (x.ratio.2 * y.ratio.2)

/-- The rounded quotient of a finite non-negative double by a positive one. -/
def div (x y : Binary64) : Binary64 :=
  ofRatio (x.ratio.1 * y.ratio.2) (x.ratio.2 * y.ratio.1)

/-! ### Decimals

A decimal is computed in doubles: its significand, a number of 64 bits, is rounded first,
and the product or the quotient with a power of ten rounds once more.  The result may
differ from the nearest double in its last bits.
-/

/-- The double nearest to `10 ^ n`. -/
def tenTo (n : Nat) : Binary64 :=
  ofNat (10 ^ n)

/-- The largest power of ten among the doubles. -/
def maxPower : Nat :=
  308

/-- A double divided by `10 ^ n`.  What exceeds the largest power of ten is divided by in a
second step; twice that power leaves nothing of a number of 64 bits. -/
def divTenTo (x : Binary64) (n : Nat) : Binary64 :=
  if n ≤ maxPower then x.div (tenTo n)
  else if n ≤ 2 * maxPower then (x.div (tenTo maxPower)).div (tenTo (n - maxPower))
  else zero

/-- The significand `m` times `10 ^ e`; an infinity beyond the range. -/
def scaled (m : Nat) : Int → Binary64
  | .ofNat n =>
    if n ≤ maxPower then (ofNat m).mul (tenTo n)
    else if m = 0 then zero
    else ⟨UInt64.ofNat infinite⟩
  | .negSucc n => (ofNat m).divTenTo (n + 1)

example : scaled 75 (-2) = ⟨0x3fe8000000000000⟩ := by decide +kernel
example : ofNat 1 = ⟨0x3ff0000000000000⟩ := by decide +kernel
example : scaled 5 (-324) = ⟨1⟩ := by decide +kernel
example : scaled 17976931348623159 292 = ⟨UInt64.ofNat infinite⟩ := by decide +kernel
example : scaled 12345678901234568000 1 ≠ ofNat 123456789012345680000 := by decide +kernel
example : le zero (neg zero) ∧ le (neg zero) zero ∧ ¬lt (neg zero) zero := by decide +kernel

end Binary64

end Soak
