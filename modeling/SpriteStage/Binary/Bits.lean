import SpriteStage.Binary.Basic

/-!
# Bit patterns

The interchange encoding of a binary number: sign, biased exponent, trailing significand. Below
the normal range the exponent field is zero and the significand field counts units; above it, each
step of the exponent field doubles the spacing. Because an exponent step is one in the field above
the significand, both cases are the one sum in `magnitudeBits`.
-/

namespace SpriteStage

namespace Format

/-- The number of stored significand bits. -/
def fractionBits (φ : Format) : Nat := φ.precision - 1

/-- The exponent field that marks infinities and NaNs. -/
def reservedExponent (φ : Format) : Nat := 2 ^ φ.exponentBits - 1

end Format

namespace Binary

variable {φ : Format}

/-- Exponent and significand fields of a held magnitude. -/
def magnitudeBits (φ : Format) (units : Nat) : Nat :=
  (units.log2 + 1 - φ.precision) * 2 ^ φ.fractionBits + units / φ.spacing units

/-- The bit pattern of a number; the NaN is the quiet one without payload. -/
def toBits : Binary φ → Nat
  | nan => φ.reservedExponent * 2 ^ φ.fractionBits + 2 ^ (φ.fractionBits - 1)
  | infinite negative =>
    signBit negative + φ.reservedExponent * 2 ^ φ.fractionBits
  | finite negative units _ => signBit negative + magnitudeBits φ units
where
  signBit (negative : Bool) : Nat :=
    if negative then 2 ^ (φ.exponentBits + φ.fractionBits) else 0

/-- The number with a given bit pattern; every NaN pattern gives the one NaN. -/
def ofBits (bits : Nat) : Binary φ :=
  let fraction := bits % 2 ^ φ.fractionBits
  let exponent := bits / 2 ^ φ.fractionBits % 2 ^ φ.exponentBits
  let negative := bits / 2 ^ (φ.exponentBits + φ.fractionBits) % 2 = 1
  if exponent = φ.reservedExponent then
    if fraction = 0 then infinite (decide negative) else nan
  else if exponent = 0 then
    ofUnits (decide negative) fraction
  else
    ofUnits (decide negative) ((2 ^ φ.fractionBits + fraction) * 2 ^ (exponent - 1))

end Binary

end SpriteStage
