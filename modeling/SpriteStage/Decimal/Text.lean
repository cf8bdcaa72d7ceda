import SpriteStage.Decimal.Digits
import SpriteStage.Decimal.Shortest

/-!
# Decimal text of binary numbers

A `NumberStyle` says how the shortest decimal of a number is laid out: in which range of leading
exponents positionally, with how many fraction digits at least, and otherwise in scientific form;
and which of two equally near decimals it is.
`Binary.toFixed` writes the exact value rounded to a fixed number of places instead.
-/

namespace SpriteStage

/-- The layout of a decimal: the half-open range of leading exponents that are written
positionally (all of them if absent), the least number of fraction digits there, and which decimal
is taken of two that are equally near. -/
structure NumberStyle where
  positional : Option (Int × Int)
  fractionDigits : Nat
  tie : Tie

namespace NumberStyle

/-- Numbers in messages are always positional, with no more fraction digits than they need; a half
in the last digit goes away from zero. -/
def message : NumberStyle := ⟨none, 0, .upper⟩

/-- Real numbers in JSON text: positional from `1e-5` up to below `1e16`, and never without a
fraction digit; a half in the last digit goes to the even neighbour. -/
def json : NumberStyle := ⟨some (-5, 16), 1, .even⟩

end NumberStyle

namespace Decimal

/-- Digits with the point before the last `places` of them, at least one digit standing in front;
no point if `places` is zero. -/
def pointed (ds : List Char) (places : Nat) : List Char :=
  let padded := List.replicate (places + 1 - ds.length) '0' ++ ds
  let whole := padded.length - places
  if places = 0 then padded else padded.take whole ++ '.' :: padded.drop whole

/-- The positional form, with at least `fractionDigits` digits after the point. -/
def positional (d : Decimal) (fractionDigits : Nat) : List Char :=
  let places := max (-d.exponent).toNat fractionDigits
  pointed (Digits.ofNat d.significand ++ List.replicate (d.exponent + places).toNat '0') places

def scientific (d : Decimal) : List Char :=
  let ds := Digits.ofNat d.significand
  let exponent := d.exponent + (ds.length - 1)
  pointed ds (ds.length - 1) ++ 'e' :: (if exponent < 0 then '-' else '+') ::
    Digits.ofNat exponent.natAbs

def write (style : NumberStyle) (d : Decimal) : List Char :=
  let leading := d.exponent + ((Digits.ofNat d.significand).length - 1)
  match style.positional with
  | none => d.positional style.fractionDigits
  | some (low, high) =>
    if low ≤ leading ∧ leading < high then d.positional style.fractionDigits else d.scientific

end Decimal

namespace Binary

variable {φ : Format}

def withSign (negative : Bool) (magnitude : List Char) : String :=
  String.ofList (if negative then '-' :: magnitude else magnitude)

/-- The text of a number in a style, its finite values by their shortest decimals. -/
def toText (style : NumberStyle) : Binary φ → String
  | nan => "NaN"
  | infinite negative => withSign negative "inf".toList
  | finite negative units _ => withSign negative ((Decimal.shortest φ style.tie units).write style)

/-- The text of a number in a message. -/
def display (x : Binary φ) : String := x.toText .message

/-- The exact value of a number rounded to `places` decimal places, ties to even. -/
def toFixed (places : Nat) : Binary φ → String
  | nan => "NaN"
  | infinite negative => withSign negative "inf".toList
  | finite negative units _ =>
    let scaled := roundQuotient (units * 10 ^ places) (2 ^ φ.scale)
    withSign negative (Decimal.pointed (Digits.ofNat scaled) places)

end Binary

end SpriteStage
