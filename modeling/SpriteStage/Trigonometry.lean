import SpriteStage.Binary.Basic

/-!
# Sine and cosine

The power series of sine and cosine in fixed point, rounded once to the nearest number. The fixed
point has 64 bits below the smallest unit of the 32-bit format, so over one turn the sum is off by
far less than any rounding can see. Both results lie between -1 and 1.
-/

namespace SpriteStage.Trigonometry

/-- Bits of the fixed point below the smallest unit of a number. -/
def guardBits : Nat := 64

/-- Bits of the fixed point below one. -/
def fixedBits : Nat := Format.single.scale + guardBits

/-- At most this many terms of a series are summed; over one turn they vanish before that. -/
def termCount : Nat := 64

/-- The alternating sum of `term`, of `term * square / ((n + 1) * (n + 2))`, and so on, in fixed
point, up to a term that vanishes. -/
def alternatingSum (square : Nat) : (terms term n : Nat) → Int
  | 0, _, _ => 0
  | terms + 1, term, n =>
    if term = 0 then
      0
    else
      let next := (term * square) >>> fixedBits / ((n + 1) * (n + 2))
      term - alternatingSum square terms next (n + 2)

/-- The fixed-point square of a fixed-point number. -/
def square (x : Nat) : Nat := (x * x) >>> fixedBits

/-- The nearest number to a fixed-point value, which is first brought between -1 and 1. -/
def ofFixed (negative : Bool) (value : Int) : Single :=
  .ofRatio (negative != decide (value < 0)) (min value.natAbs (2 ^ fixedBits)) (2 ^ guardBits)

def cosine : Single → Single
  | .finite _ units _ =>
    let x := units * 2 ^ guardBits
    ofFixed false (alternatingSum (square x) termCount (2 ^ fixedBits) 0)
  | _ => .nan

def sine : Single → Single
  | .finite negative units _ =>
    let x := units * 2 ^ guardBits
    ofFixed negative (alternatingSum (square x) termCount x 1)
  | _ => .nan

end SpriteStage.Trigonometry
