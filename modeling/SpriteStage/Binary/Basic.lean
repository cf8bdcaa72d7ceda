import SpriteStage.Binary.Format

/-!
# Binary numbers

A binary number is one NaN, an infinity with a sign, or a signed whole number of units that its
format holds. Arithmetic is exact arithmetic on the units followed by one rounding; the sign of a
zero is kept apart from its value. The order is that of the extended line: it never holds of a NaN
and does not tell the two zeros apart.
-/

namespace SpriteStage

/-- A number of a binary format: a NaN, an infinity, or `units * 2 ^ -scale` with a sign. -/
inductive Binary (φ : Format) where
  | nan
  | infinite (negative : Bool)
  | finite (negative : Bool) (units : Nat) (held : φ.Holds units)
deriving DecidableEq

abbrev Single := Binary .single

abbrev Double := Binary .double

def signed (negative : Bool) (magnitude : Nat) : Int :=
  if negative then -(magnitude : Int) else magnitude

namespace Binary

variable {φ ψ : Format}

/-- The nearest number to `numerator / denominator` units; a magnitude that rounds to the ceiling
becomes infinite. -/
def ofRatio (negative : Bool) (numerator denominator : Nat) : Binary φ :=
  if h : (φ.round numerator denominator).log2 < φ.ceiling then
    finite negative (φ.round numerator denominator) ⟨φ.spacing_dvd_round _ _, h⟩
  else
    infinite negative

def ofUnits (negative : Bool) (units : Nat) : Binary φ := ofRatio negative units 1

/-- A number of units that the format holds is not rounded. -/
theorem ofUnits_of_holds (negative : Bool) {units : Nat} (h : φ.Holds units) :
    ofUnits negative units = finite negative units h := by
  have hround := φ.round_of_dvd h.1
  simp only [ofUnits, ofRatio, hround]
  exact dif_pos h.2

def ofInt (n : Int) : Binary φ := ofUnits (decide (n < 0)) (n.natAbs * 2 ^ φ.scale)

instance (n : Nat) : OfNat (Binary φ) n := ⟨ofInt n⟩

instance : Inhabited (Binary φ) := ⟨0⟩

def isNaN : Binary φ → Bool
  | nan => true
  | _ => false

def isFinite : Binary φ → Bool
  | finite .. => true
  | _ => false

def isNegative : Binary φ → Bool
  | nan => false
  | infinite negative => negative
  | finite negative .. => negative

protected def neg : Binary φ → Binary φ
  | nan => nan
  | infinite negative => infinite !negative
  | finite negative units held => finite (!negative) units held

instance : Neg (Binary φ) := ⟨Binary.neg⟩

protected def abs : Binary φ → Binary φ
  | nan => nan
  | infinite _ => infinite false
  | finite _ units held => finite false units held

/-- One with the sign of a number, that of a zero included. -/
def signum : Binary φ → Binary φ
  | nan => nan
  | infinite negative | finite negative .. => if negative then -1 else 1

/-! ## Order -/

/-- The place of a number on the extended line, in units; the infinities stand at the ceiling. -/
def place : Binary φ → Option Int
  | nan => none
  | infinite negative => some (signed negative (2 ^ φ.ceiling))
  | finite negative units _ => some (signed negative units)

/-- The order of two numbers by their places, or nothing if one of them is a NaN. -/
def compare? (a b : Binary φ) : Option Ordering :=
  match a.place, b.place with
  | some x, some y => some (compare x y)
  | _, _ => none

instance : LT (Binary φ) := ⟨fun a b => a.compare? b = some .lt⟩

instance : LE (Binary φ) := ⟨fun a b => a.compare? b = some .lt ∨ a.compare? b = some .eq⟩

instance : DecidableLT (Binary φ) := fun a b =>
  inferInstanceAs (Decidable (a.compare? b = some .lt))

instance : DecidableLE (Binary φ) := fun a b =>
  inferInstanceAs (Decidable (a.compare? b = some .lt ∨ a.compare? b = some .eq))

/-- Numerical equality: a NaN equals nothing, and the two zeros are equal. -/
def equals (a b : Binary φ) : Bool := a.compare? b == some .eq

/-- The greater of two numbers; if one is a NaN, the other. -/
def greater (a b : Binary φ) : Binary φ :=
  if a.isNaN then b else if a < b then b else a

def lesser (a b : Binary φ) : Binary φ :=
  if a.isNaN then b else if b < a then b else a

def clamp (x low high : Binary φ) : Binary φ :=
  if x < low then low else if high < x then high else x

/-! ## Arithmetic -/

/-- The sum of two finite numbers. An exact zero is negative only if both terms are. -/
def addFinite (negative₁ : Bool) (units₁ : Nat) (negative₂ : Bool) (units₂ : Nat) : Binary φ :=
  let sum := signed negative₁ units₁ + signed negative₂ units₂
  if sum = 0 then
    ofUnits (negative₁ && negative₂) 0
  else
    ofUnits (decide (sum < 0)) sum.natAbs

protected def add : Binary φ → Binary φ → Binary φ
  | nan, _ | _, nan => nan
  | infinite a, infinite b => if a = b then infinite a else nan
  | infinite a, finite .. => infinite a
  | finite .., infinite b => infinite b
  | finite a m _, finite b n _ => addFinite a m b n

instance : Add (Binary φ) := ⟨Binary.add⟩

instance : Sub (Binary φ) := ⟨fun a b => a + -b⟩

protected def mul : Binary φ → Binary φ → Binary φ
  | nan, _ | _, nan => nan
  | infinite a, infinite b => infinite (a != b)
  | infinite a, finite b n _ => if n = 0 then nan else infinite (a != b)
  | finite a m _, infinite b => if m = 0 then nan else infinite (a != b)
  | finite a m _, finite b n _ => ofRatio (a != b) (m * n) (2 ^ φ.scale)

instance : Mul (Binary φ) := ⟨Binary.mul⟩

protected def div : Binary φ → Binary φ → Binary φ
  | nan, _ | _, nan => nan
  | infinite _, infinite _ => nan
  | infinite a, finite b _ _ => infinite (a != b)
  | finite a _ _, infinite b => ofUnits (a != b) 0
  | finite a m _, finite b n _ =>
    if n = 0 then
      if m = 0 then nan else infinite (a != b)
    else
      ofRatio (a != b) (m * 2 ^ φ.scale) n

instance : Div (Binary φ) := ⟨Binary.div⟩

/-- The exact remainder of division toward zero; it has the sign of the dividend. -/
protected def rem : Binary φ → Binary φ → Binary φ
  | finite a m held, infinite _ => finite a m held
  | finite a m _, finite _ n _ => if n = 0 then nan else ofUnits a (m % n)
  | _, _ => nan

instance : Mod (Binary φ) := ⟨Binary.rem⟩

/-- The least whole number that is not below a number. -/
def ceil : Binary φ → Binary φ
  | nan => nan
  | infinite negative => infinite negative
  | finite true units _ => ofUnits true (units / 2 ^ φ.scale * 2 ^ φ.scale)
  | finite false units _ =>
    ofUnits false ((units + (2 ^ φ.scale - 1)) / 2 ^ φ.scale * 2 ^ φ.scale)

/-! ## Conversions -/

def convert : Binary φ → Binary ψ
  | nan => nan
  | infinite negative => infinite negative
  | finite negative units _ => ofRatio negative (units * 2 ^ ψ.scale) (2 ^ φ.scale)

/-- The whole part of a number, held between two bounds; a NaN counts as zero. -/
def truncate (low high : Int) : Binary φ → Int
  | nan => 0
  | infinite negative => if negative then low else high
  | finite negative units _ => max low (min high (signed negative (units / 2 ^ φ.scale)))

end Binary

end SpriteStage
