import SpriteStage.Decimal.Digits
import SpriteStage.Decimal.Shortest

/-!
# From decimals to binary numbers

`Binary.ofDecimal` is the nearest number to a decimal. `Double.scaleByTen?` is the cheaper reading
that JSON numbers get: a significand of at most 64 bits is rounded once, and then multiplied or
divided by rounded powers of ten; it is exact for the usual short decimals and can be one unit off
in the last place for others.
-/

namespace SpriteStage

namespace Binary

variable {φ : Format}

/-- The nearest number to a decimal. Decimals beyond the ceiling or below the grid by more than any
rounding are decided by their leading exponent alone. -/
def ofDecimal (negative : Bool) (d : Decimal) : Binary φ :=
  let leading := d.exponent + (Digits.ofNat d.significand).length
  if d.significand = 0 ∨ leading < -φ.scale then
    ofUnits negative 0
  else if φ.ceiling < leading then
    infinite negative
  else
    ofRatio negative (d.significand * 10 ^ d.exponent.toNat * 2 ^ φ.scale)
      (10 ^ (-d.exponent).toNat)

end Binary

namespace Double

/-- The largest exponent of ten that a 64-bit number holds. -/
def greatestTen : Nat := 308

/-- The nearest number to a power of ten. -/
def powerOfTen (n : Nat) : Double := Binary.ofInt (10 ^ n)

/-- Division by a power of ten, in steps of the greatest one; it stops at zero. -/
def divideByTens (x : Double) (n : Nat) : Double :=
  if n ≤ greatestTen then
    x / powerOfTen n
  else if x.equals 0 then
    x
  else
    divideByTens (x / powerOfTen greatestTen) (n - greatestTen)
termination_by n
decreasing_by simp only [greatestTen] at *; omega

/-- A natural number times a power of ten, or nothing if that is too large for a finite number. -/
def scaleByTen? (significand : Nat) (exponent : Int) : Option Double :=
  let x : Double := Binary.ofInt significand
  if exponent < 0 then
    some (divideByTens x exponent.natAbs)
  else if exponent ≤ greatestTen then
    let scaled := x * powerOfTen exponent.toNat
    if scaled.isFinite then some scaled else none
  else if significand = 0 then
    some x
  else
    none

end Double

end SpriteStage
