/-!
# Binary formats and rounding to the nearest held magnitude

A binary format holds magnitudes that are whole multiples of one smallest unit, `2 ^ -scale`.
From `2 ^ precision` units upward the held magnitudes grow sparser: neighbours at `n` units are
`spacing n` apart, which keeps every one of them at `precision` significant bits.

`Format.round` takes a quotient of natural numbers of units to the nearest multiple of the spacing
there, ties to the even multiple; `spacing_dvd_round` says that the result is on the grid of its own
size, also when the rounding climbs into the next, sparser, range.
-/

namespace SpriteStage

-- Powers are those of the core library, also where the powers of a monoid are known.
instance (priority := 2000) powNat : Pow Nat Nat := instPowNat

instance (priority := 2000) powInt : Pow Int Nat := instPowNat

/-- The nearest whole number to `numerator / denominator`, a half going to the even neighbour. -/
def roundQuotient (numerator denominator : Nat) : Nat :=
  let quotient := numerator / denominator
  let rest := numerator % denominator
  if 2 * rest < denominator ∨ (2 * rest = denominator ∧ quotient % 2 = 0) then
    quotient
  else
    quotient + 1

theorem roundQuotient_le_succ (numerator denominator : Nat) :
    roundQuotient numerator denominator ≤ numerator / denominator + 1 := by
  unfold roundQuotient
  dsimp only
  split <;> omega

theorem roundQuotient_of_dvd {numerator denominator : Nat} (hpos : 0 < denominator)
    (h : denominator ∣ numerator) :
    roundQuotient numerator denominator = numerator / denominator := by
  simp [roundQuotient, Nat.mod_eq_zero_of_dvd h, hpos]

/-- A binary interchange format: how many bits its exponent field and its significand have. -/
structure Format where
  exponentBits : Nat
  precision : Nat
  precision_pos : 0 < precision := by decide
deriving DecidableEq

namespace Format

def single : Format := { exponentBits := 8, precision := 24 }

def double : Format := { exponentBits := 11, precision := 53 }

/-- The smallest positive magnitude is `2 ^ -scale`. -/
def scale (φ : Format) : Nat := 2 ^ (φ.exponentBits - 1) + φ.precision - 3

/-- Every held magnitude is below `2 ^ ceiling` units: its leading bit is below that one. -/
def ceiling (φ : Format) : Nat := 2 ^ (φ.exponentBits - 1) + φ.scale

/-- The distance between neighbouring held magnitudes at `units`. -/
def spacing (φ : Format) (units : Nat) : Nat := 2 ^ (units.log2 + 1 - φ.precision)

/-- A number of units that the format can hold: on the grid of its size and below the ceiling. -/
def Holds (φ : Format) (units : Nat) : Prop :=
  φ.spacing units ∣ units ∧ units.log2 < φ.ceiling

instance (φ : Format) (units : Nat) : Decidable (φ.Holds units) :=
  inferInstanceAs (Decidable (_ ∧ _))

/-- The multiple of the local spacing nearest to `numerator / denominator` units, with no regard
to the ceiling. -/
def round (φ : Format) (numerator denominator : Nat) : Nat :=
  let step := φ.spacing (numerator / denominator)
  roundQuotient numerator (denominator * step) * step

theorem spacing_dvd_mul_pow (φ : Format) {significand exponent : Nat}
    (h : significand ≤ 2 ^ φ.precision) :
    φ.spacing (significand * 2 ^ exponent) ∣ significand * 2 ^ exponent := by
  rcases Nat.eq_zero_or_pos significand with rfl | hpos
  · simp
  have hp := φ.precision_pos
  rcases Nat.lt_or_eq_of_le h with hlt | rfl
  · have hlog : (significand * 2 ^ exponent).log2 < φ.precision + exponent := by
      rw [Nat.log2_lt (Nat.ne_of_gt (Nat.mul_pos hpos (Nat.two_pow_pos _))), Nat.pow_add]
      exact Nat.mul_lt_mul_of_pos_right hlt (Nat.two_pow_pos _)
    exact Nat.dvd_mul_left_of_dvd (Nat.pow_dvd_pow 2 (by omega)) _
  · rw [← Nat.pow_add, spacing, Nat.log2_two_pow]
    exact Nat.pow_dvd_pow 2 (by omega)

theorem spacing_dvd_round (φ : Format) (numerator denominator : Nat) :
    φ.spacing (φ.round numerator denominator) ∣ φ.round numerator denominator := by
  apply spacing_dvd_mul_pow
  refine Nat.le_trans (roundQuotient_le_succ _ _) ?_
  rw [← Nat.div_div_eq_div_mul]
  refine Nat.succ_le_of_lt (Nat.div_lt_of_lt_mul ?_)
  refine Nat.lt_of_lt_of_le Nat.lt_log2_self ?_
  rw [spacing, ← Nat.pow_add]
  exact Nat.pow_le_pow_right (by decide) (by omega)

theorem spacing_pos (φ : Format) (units : Nat) : 0 < φ.spacing units := Nat.two_pow_pos _

theorem round_of_dvd (φ : Format) {units : Nat} (h : φ.spacing units ∣ units) :
    φ.round units 1 = units := by
  simp only [round, Nat.div_one, Nat.one_mul]
  rw [roundQuotient_of_dvd (φ.spacing_pos units) h, Nat.div_mul_cancel h]

end Format

end SpriteStage
