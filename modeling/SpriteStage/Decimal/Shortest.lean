import SpriteStage.Binary.Basic

/-!
# The shortest decimal that reads back

A finite binary number owns an interval of the line: the points nearer to it than to its
neighbours, and the two midpoints as well if its significand is even. Any decimal in the interval
reads back as the number. The shortest one lies on the coarsest power-of-ten grid that meets the
interval, and a grid that meets it does so at one of the two grid points beside the number. Of two
points that read back the nearer one is taken, and a `Tie` says which of two that are equally near.
-/

namespace SpriteStage

/-- The decimal number `significand * 10 ^ exponent`. -/
structure Decimal where
  significand : Nat
  exponent : Int
deriving DecidableEq, Inhabited

/-- Which of two neighbouring whole numbers stands for the point half way between them. -/
inductive Tie where
  | even
  | upper
deriving DecidableEq, Inhabited

/-- The nearest whole number to `numerator / denominator`, a half going where `tie` says. -/
def Tie.round (tie : Tie) (numerator denominator : Nat) : Nat :=
  match tie with
  | even => roundQuotient numerator denominator
  | upper => (2 * numerator + denominator) / (2 * denominator)

namespace Decimal

variable (φ : Format) (tie : Tie)

/-- The magnitude just below a positive magnitude. -/
def below (units : Nat) : Nat := units - φ.spacing (units - 1)

/-- The magnitude just above a magnitude, the ceiling included. -/
def above (units : Nat) : Nat := units + φ.spacing units

/-- Whether `point / 2` units lie in the interval that reads back as `units`, both multiplied by
`factor`. -/
def readsBack (units factor point : Nat) : Bool :=
  let low := (below φ units + units) * factor
  let high := (units + above φ units) * factor
  if units / φ.spacing units % 2 = 0 then
    low ≤ point && point ≤ high
  else
    low < point && point < high

/-- The multiple of `10 ^ exponent` that is nearest to a magnitude among the two beside it that
read back as it. -/
def onGrid? (units : Nat) (exponent : Int) : Option Decimal :=
  -- A grid point `m` and the magnitude, in common small pieces: `m * step` against `factor`s.
  let step := 2 ^ φ.scale * 10 ^ exponent.toNat
  let factor := 10 ^ (-exponent).toNat
  let lower := units * factor / step
  let upper := lower + 1
  let fits (m : Nat) : Bool := readsBack φ units factor (2 * (m * step))
  match fits lower, fits upper with
  | true, true =>
    some ⟨tie.round (units * factor) step, exponent⟩
  | true, false => some ⟨lower, exponent⟩
  | false, true => some ⟨upper, exponent⟩
  | false, false => none

/-- The first grid that meets the interval of a magnitude, from `10 ^ exponent` down. -/
def coarsest (units : Nat) (exponent : Int) : Nat → Decimal
  | 0 => ⟨units, 0⟩
  | steps + 1 =>
    match onGrid? φ tie units exponent with
    | some d => d
    | none => coarsest units (exponent - 1) steps

/-- The shortest decimal that reads back as a magnitude. The search starts above the magnitude and
ends at the grid of `10 ^ -scale`, on which every magnitude lies. -/
def shortest (units : Nat) : Decimal :=
  if units = 0 then
    ⟨0, 0⟩
  else
    let top := (units / 2 ^ φ.scale).log2 / 3 + 1
    coarsest φ tie units top (top + φ.scale + 1)

end Decimal

end SpriteStage
