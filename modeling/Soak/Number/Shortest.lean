import Soak.Number.Binary64

/-!
# The shortest decimal text of a double

Of all decimals that read back as a given double, the text shows one with the fewest
digits, and of those the nearest to the double.  The doubles are spaced so that the reals
which round to `m * 2 ^ q` form an interval around it; its ends belong to it when `m` is
even.  For one digit, two digits and so on, the two neighbours of the double on that
decimal grid are tested against the interval, in exact arithmetic.

`Layout` holds what a format decides: which of two equally near decimals is taken, where
positional notation ends and whether an integral value keeps a fraction.
-/

namespace Soak.Binary64

/-- A positive decimal `digits * 10 ^ exponent`. -/
structure Decimal where
  /-- The digits, read as one number. -/
  digits : Nat
  /-- The power of ten of the last digit. -/
  exponent : Int
deriving DecidableEq, Repr

/-- Twice the distances, in units of `2 ^ (scale - 2)`, from a double to the ends of the
interval of reals that round to it.  Below a power of two the neighbour is nearer. -/
def halfGaps (x : Binary64) : Nat × Nat :=
  (if x.significand = 2 ^ 52 ∧ x.scale ≠ -1074 then 1 else 2, 2)

/-- Whether the decimal lies in the interval of reals that round to `x`. -/
def readsAs (x : Binary64) (d : Decimal) : Bool :=
  let twos : Int := x.scale - 2
  let unit := 2 ^ twos.toNat * 10 ^ (-d.exponent).toNat
  let value := d.digits * 10 ^ d.exponent.toNat * 2 ^ (-twos).toNat
  let low := (4 * x.significand - x.halfGaps.1) * unit
  let high := (4 * x.significand + x.halfGaps.2) * unit
  if x.significand % 2 = 0 then low ≤ value && value ≤ high else low < value && value < high

/-- The largest `e` with `10 ^ e ≤ num / den`, searched downwards from a bound. -/
def floorLog10 (num den : Nat) : Nat → Int → Int
  | 0, e => e
  | fuel + 1, e =>
    if den * 10 ^ e.toNat ≤ num * 10 ^ (-e).toNat then e else floorLog10 num den fuel (e - 1)

/-- Which of two decimals at the same distance from a double is taken. -/
inductive Tie where
  /-- The one with an even last digit. -/
  | even
  /-- The one farther from zero. -/
  | away
deriving DecidableEq, Repr

/-- The quotient rounded down or up to the nearest integer, a half as the tie says. -/
def Tie.round (tie : Tie) (num den : Nat) : Nat :=
  match tie with
  | .even => roundHalfEven num den
  | .away => (2 * num + den) / (2 * den)

/-- The decimals with the last digit at `10 ^ k` just below and just above `num / den`,
the nearer one first. -/
def neighbours (tie : Tie) (num den : Nat) (k : Int) : List Decimal :=
  let top := num * 10 ^ (-k).toNat
  let bottom := den * 10 ^ k.toNat
  let below : Decimal := ⟨top / bottom, k⟩
  let above : Decimal := ⟨top / bottom + 1, k⟩
  if tie.round top bottom = top / bottom then [below, above] else [above, below]

/-- The first grid with a hit, from the coarsest one down. -/
def firstHit (tie : Tie) (x : Binary64) (num den : Nat) : Nat → Int → Option Decimal
  | 0, _ => none
  | fuel + 1, k =>
    match (neighbours tie num den k).find? x.readsAs with
    | some d => some d
    | none => firstHit tie x num den fuel (k - 1)

/-- The shortest decimal that reads back as a finite positive double. -/
def shortest (x : Binary64) (tie : Tie) : Decimal :=
  let (num, den) := x.ratio
  let bound : Int := floorLog2 num den * 3 / 10 + 2
  let lead := floorLog10 num den 40 bound
  (firstHit tie x num den 18 lead).getD ⟨0, 0⟩

/-- What a format decides about the text of a double. -/
structure Layout where
  /-- Which of two equally near decimals is written. -/
  tie : Tie
  /-- Whether a number is written positionally, by the power of ten of its first digit. -/
  positional : Int → Bool
  /-- Whether an integral number written positionally ends in `.0`. -/
  keepsFraction : Bool

/-- The text of a decimal in positional notation. -/
def Decimal.positional (d : Decimal) (keepsFraction : Bool) : String :=
  let digits := Nat.toDigits 10 d.digits
  let point : Int := digits.length + d.exponent
  if d.exponent ≥ 0 then
    String.ofList (digits ++ List.replicate d.exponent.toNat '0')
      ++ (if keepsFraction then ".0" else "")
  else if point > 0 then
    String.ofList (digits.take point.toNat) ++ "." ++ String.ofList (digits.drop point.toNat)
  else
    "0." ++ String.ofList (List.replicate (-point).toNat '0' ++ digits)

/-- The text of a decimal with one digit before the point and an exponent with its sign. -/
def Decimal.scientific (d : Decimal) : String :=
  let digits := Nat.toDigits 10 d.digits
  let power : Int := digits.length + d.exponent - 1
  let fraction := if digits.length ≤ 1 then "" else "." ++ String.ofList (digits.drop 1)
  String.ofList (digits.take 1) ++ fraction ++ "e" ++ (if power < 0 then "-" else "+")
    ++ toString power.natAbs

/-- The decimal without zeros at the end of its digits. -/
def Decimal.strip (d : Decimal) : Nat → Decimal
  | 0 => d
  | fuel + 1 =>
    if d.digits ≠ 0 ∧ d.digits % 10 = 0 then Decimal.strip ⟨d.digits / 10, d.exponent + 1⟩ fuel
    else d

/-- The text of a double in a given layout. -/
def text (layout : Layout) (x : Binary64) : String :=
  if x.isNaN then "NaN"
  else
    let sign := if x.isNegative then "-" else ""
    if ¬x.isFinite then sign ++ "inf"
    else
      let d := if x.magnitude = 0 then ⟨0, 0⟩ else (x.shortest layout.tie).strip 18
      let power : Int := (Nat.toDigits 10 d.digits).length + d.exponent - 1
      sign ++ if layout.positional power then d.positional layout.keepsFraction else d.scientific

/-- Always positional, without a fraction for an integral number. -/
def plain : Layout :=
  ⟨.away, fun _ => true, false⟩

example : text plain (ofRatio 3 4) = "0.75" := by decide +kernel
example : text plain (ofNat (10 ^ 21)) = "1000000000000000000000" := by decide +kernel
example : text plain (ofRatio 1 2).neg = "-0.5" := by decide +kernel
example : shortest ⟨1⟩ .even = ⟨5, -324⟩ := by decide +kernel
example : shortest (ofRatio 1 (2 ^ 25)) .even = ⟨29802322387695312, -24⟩ := by decide +kernel
example : shortest (ofRatio 1 (2 ^ 25)) .away = ⟨29802322387695313, -24⟩ := by decide +kernel

end Soak.Binary64
