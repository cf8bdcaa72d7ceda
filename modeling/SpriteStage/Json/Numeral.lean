import SpriteStage.Decimal.Reading
import SpriteStage.Json.Basic

/-!
# JSON numerals

The grammar of a number in JSON text, read from the front of a character list, and the value of a
numeral. A numeral without fraction and exponent is an integer if it fits 64 bits, with a sign or
without; `-0` and everything else is a real number.
-/

namespace SpriteStage.Json

/-- What is left of a character list after something was read from its front. -/
abbrev Rest (cs : List Char) := { rest : List Char // rest.length ≤ cs.length }

def Rest.all (cs : List Char) : Rest cs := ⟨cs, Nat.le_refl _⟩

structure Numeral where
  negative : Bool
  whole : List Char
  fraction : Option (List Char)
  exponent : Option Int

namespace Numeral

def digits? (cs : List Char) : Option (List Char × Rest cs) :=
  match Digits.span cs, Digits.length_span_snd_le cs with
  | ([], _), _ => none
  | (ds, rest), h => some (ds, ⟨rest, h⟩)

/-- The whole part that starts with `c`: no zero stands in front of another digit. -/
def whole? (c : Char) (cs : List Char) : Option (List Char × Rest cs) :=
  match Digits.span cs, Digits.length_span_snd_le cs with
  | (ds, rest), h =>
    if ¬Digits.isDigit c ∨ (c = '0' ∧ ds ≠ []) then none else some (c :: ds, ⟨rest, h⟩)

def fraction? : (cs : List Char) → Option (Option (List Char) × Rest cs)
  | '.' :: cs => do
    let (ds, ⟨rest, h⟩) ← digits? cs
    return (some ds, ⟨rest, Nat.le_succ_of_le h⟩)
  | cs => some (none, Rest.all cs)

def signedDigits? : (cs : List Char) → Option (Int × Rest cs)
  | '-' :: cs => do
    let (ds, ⟨rest, h⟩) ← digits? cs
    return (-(Digits.toNat ds : Int), ⟨rest, Nat.le_succ_of_le h⟩)
  | '+' :: cs => do
    let (ds, ⟨rest, h⟩) ← digits? cs
    return (Digits.toNat ds, ⟨rest, Nat.le_succ_of_le h⟩)
  | cs => do
    let (ds, rest) ← digits? cs
    return (Digits.toNat ds, rest)

def exponent? : (cs : List Char) → Option (Option Int × Rest cs)
  | c :: cs =>
    if c = 'e' ∨ c = 'E' then do
      let (n, ⟨rest, h⟩) ← signedDigits? cs
      return (some n, ⟨rest, Nat.le_succ_of_le h⟩)
    else
      some (none, Rest.all (c :: cs))
  | [] => some (none, Rest.all [])

/-- The longest numeral that starts with `c`, its sign apart, or nothing if the text breaks the
grammar before the numeral is complete. -/
def unsigned? (negative : Bool) (c : Char) (cs : List Char) : Option (Numeral × Rest cs) := do
  let (whole, ⟨rest₁, h₁⟩) ← whole? c cs
  let (fraction, ⟨rest₂, h₂⟩) ← fraction? rest₁
  let (exponent, ⟨rest₃, h₃⟩) ← exponent? rest₂
  return ({ negative, whole, fraction, exponent }, ⟨rest₃, by omega⟩)

/-! ## Value -/

/-- The significand of a real numeral is held in 64 bits. -/
def significandBound : Nat := 2 ^ (64 : Nat)

/-- Digits appended to a significand as long as it stays within 64 bits, and the digits that are
left over. -/
def appendDigits (significand : Nat) : List Char → Nat × List Char
  | [] => (significand, [])
  | d :: ds =>
    let longer := 10 * significand + Digits.value d
    if longer < significandBound then appendDigits longer ds else (significand, d :: ds)

/-- The value of a numeral as a real number, if it is not too large. Whole digits beyond the
significand count toward the exponent, fraction digits beyond it are dropped. -/
def real? (n : Numeral) : Option Double :=
  let (wholePart, leftWhole) := appendDigits 0 n.whole
  let fraction := n.fraction.getD []
  let (significand, leftFraction) := appendDigits wholePart fraction
  let kept := fraction.length - leftFraction.length
  let exponent := n.exponent.getD 0 + leftWhole.length - kept
  (Double.scaleByTen? significand exponent).map fun x => if n.negative then -x else x

/-- The value of a numeral, or nothing if it is beyond the finite real numbers. -/
def value? (n : Numeral) : Option Number :=
  let magnitude := Digits.toNat n.whole
  match n.fraction, n.exponent with
  | none, none =>
    if n.negative then
      if 0 < magnitude ∧ magnitude ≤ 2 ^ (63 : Nat) then some (.integer (-magnitude))
      else n.real?.map .real
    else if magnitude < 2 ^ (64 : Nat) then
      some (.integer magnitude)
    else
      n.real?.map .real
  | _, _ => n.real?.map .real

end Numeral

end SpriteStage.Json
