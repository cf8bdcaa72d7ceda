import Mathlib.Data.Nat.Cast.Order.Field
import SpriteStage.Proofs.BoundedMagnitudes

/-!
# The numbers nearest to rationals

What it is to round: a rational goes to the number of the format that is nearest to it, of two that
are equally near to the one with the even significand, and from `Format.overflow` on to an infinity
(`Binary.Rounds`). Rationals come from quotients of units, and one lemma on `Format.round` carries
over to every operation that rounds once (`Binary.rounds_ofRatio`).
-/

namespace SpriteStage

/-! ## Quotients and whole numbers -/

theorem exists_rest (n : Nat) {d : Nat} (hd : 0 < d) :
    ∃ rest : ℚ, (n : ℚ) / d = (n / d : ℕ) + rest ∧ 0 ≤ rest ∧ rest < 1 ∧
      (2 * (n % d) < d ↔ 2 * rest < 1) ∧ (2 * (n % d) = d ↔ 2 * rest = 1) := by
  have hpos : (0 : ℚ) < d := by exact_mod_cast hd
  have hdm : (n : ℚ) = d * (n / d : ℕ) + (n % d : ℕ) := by
    exact_mod_cast (Nat.div_add_mod n d).symm
  refine ⟨(n % d : ℕ) / d, ?_, by positivity, ?_, ?_, ?_⟩
  · conv_lhs => rw [hdm]
    rw [add_div, mul_div_cancel_left₀ _ hpos.ne']
  · rw [div_lt_one hpos]
    exact_mod_cast Nat.mod_lt n hd
  · rw [← mul_div_assoc, div_lt_one hpos]
    exact_mod_cast Iff.rfl
  · rw [← mul_div_assoc, div_eq_one_iff_eq hpos.ne']
    exact_mod_cast Iff.rfl

/-- Rounding to a whole number moves a quotient by at most a half, and by a half only to an even
number. -/
theorem roundQuotient_near (n : Nat) {d : Nat} (hd : 0 < d) :
    |(roundQuotient n d : ℚ) - n / d| ≤ 1 / 2 ∧
      (|(roundQuotient n d : ℚ) - n / d| = 1 / 2 → Even (roundQuotient n d)) := by
  obtain ⟨rest, hrest, h₀, h₁, hlt, heq⟩ := exists_rest n hd
  unfold roundQuotient
  dsimp only
  rw [hrest]
  split
  · rename_i h
    rw [hlt, heq] at h
    rw [sub_add_cancel_left, abs_neg, abs_of_nonneg h₀]
    refine ⟨?_, fun hhalf => ?_⟩
    · rcases h with h | h <;> linarith
    · exact Nat.even_iff.2 (h.resolve_left (by linarith)).2
  · rename_i h
    rw [hlt, heq, not_or, not_and] at h
    rw [Nat.cast_succ, add_sub_add_left_eq_sub, abs_of_pos (sub_pos.2 h₁)]
    refine ⟨by linarith, fun hhalf => ?_⟩
    have hodd := h.2 (by linarith)
    exact Nat.even_add_one.2 (mt Nat.even_iff.1 hodd)

theorem le_abs_sub_of_dvd {step a b : Nat} (ha : step ∣ a) (hb : step ∣ b) (hne : a ≠ b) :
    (step : ℚ) ≤ |(a : ℚ) - b| := by
  have hdvd : (step : ℤ) ∣ |(a : ℤ) - b| :=
    (dvd_abs _ _).2 (dvd_sub (Int.natCast_dvd_natCast.2 ha) (Int.natCast_dvd_natCast.2 hb))
  have hle := Int.le_of_dvd (abs_pos.2 (sub_ne_zero.2 (Int.ofNat_inj.not.2 hne))) hdvd
  exact_mod_cast hle

namespace Format

variable {φ : Format} {n d u : Nat}

/-! ## Quotients and held magnitudes -/

/-- Rounding moves a quotient by at most half the spacing there, and by half of it only to an even
multiple. -/
theorem round_near (φ : Format) (n : Nat) (hd : 0 < d) :
    |(φ.round n d : ℚ) - n / d| ≤ φ.spacing (n / d) / 2 ∧
      (|(φ.round n d : ℚ) - n / d| = φ.spacing (n / d) / 2 →
        Even (φ.round n d / φ.spacing (n / d))) := by
  have hstep := φ.spacing_pos (n / d)
  obtain ⟨hle, heven⟩ := roundQuotient_near n (Nat.mul_pos hd hstep)
  rw [round_eq_mul]
  generalize φ.spacing (n / d) = step at *
  have hpos : (0 : ℚ) < step := by exact_mod_cast hstep
  have hscaled : |((roundQuotient n (d * step) * step : ℕ) : ℚ) - n / d| =
      |(roundQuotient n (d * step) : ℚ) - n / (d * step : ℕ)| * step := by
    conv_rhs => rw [← abs_of_pos hpos, ← abs_mul]
    congr 1
    push_cast
    field_simp
  rw [hscaled, Nat.mul_div_cancel _ hstep]
  refine ⟨?_, fun hhalf => heven ?_⟩
  · linarith [mul_le_mul_of_nonneg_right hle hpos.le]
  · exact mul_right_cancel₀ hpos.ne' (hhalf.trans (by ring))

/-- Another point of the grid is at least half a step away. -/
theorem half_spacing_le (hd : 0 < d) (hu : φ.spacing (n / d) ∣ u) (hne : u ≠ φ.round n d) :
    (φ.spacing (n / d) : ℚ) / 2 ≤ |(u : ℚ) - n / d| := by
  have hnear := (φ.round_near n hd).1
  have hround : φ.spacing (n / d) ∣ φ.round n d := Nat.dvd_mul_left ..
  have hstep := le_abs_sub_of_dvd hu hround hne
  have htriangle := abs_sub_le (u : ℚ) (n / d) (φ.round n d)
  rw [abs_sub_comm (n / d : ℚ)] at htriangle
  linarith

/-- A held magnitude off the grid is farther away than the quotient is moved. -/
theorem lt_abs_sub_of_not_dvd (hd : 0 < d) (hu : φ.spacing u ∣ u)
    (hgrid : ¬ φ.spacing (n / d) ∣ u) :
    |(φ.round n d : ℚ) - n / d| < |(u : ℚ) - n / d| := by
  -- Such a magnitude is below the power of two that begins the range of the quotient.
  have hbelow : u < 2 ^ (n / d).log2 := by
    by_contra hge
    have hlog : (n / d).log2 ≤ u.log2 := by
      rw [← Nat.log2_two_pow (n := (n / d).log2)]
      exact log2_le_log2 (Nat.not_lt.1 hge)
    exact hgrid ((Nat.pow_dvd_pow 2 (by omega)).trans hu)
  have hpos : n / d ≠ 0 := by
    intro hzero
    rw [hzero, Nat.log2_zero, Nat.pow_zero, Nat.lt_one_iff] at hbelow
    exact hgrid (hbelow ▸ Nat.dvd_zero _)
  have hbegin : ((2 ^ (n / d).log2 : ℕ) : ℚ) ≤ n / d :=
    (Nat.cast_le.2 (Nat.log2_self_le hpos)).trans Nat.cast_div_le
  have hcloser : |(φ.round n d : ℚ) - n / d| ≤ |((2 ^ (n / d).log2 : ℕ) : ℚ) - n / d| := by
    by_cases hsame : 2 ^ (n / d).log2 = φ.round n d
    · rw [hsame]
    · exact (φ.round_near n hd).1.trans
        (half_spacing_le hd (φ.spacing_dvd_two_pow_log2 _) hsame)
  have hbelow' : (u : ℚ) < (2 ^ (n / d).log2 : ℕ) := by exact_mod_cast hbelow
  refine hcloser.trans_lt ?_
  rw [abs_of_nonpos (by linarith), abs_of_nonpos (by linarith)]
  linarith

/-- No held magnitude is nearer to a quotient than the one that it is rounded to. -/
theorem abs_round_sub_le (hd : 0 < d) (hu : φ.spacing u ∣ u) :
    |(φ.round n d : ℚ) - n / d| ≤ |(u : ℚ) - n / d| := by
  by_cases hsame : u = φ.round n d
  · rw [hsame]
  by_cases hgrid : φ.spacing (n / d) ∣ u
  · exact (φ.round_near n hd).1.trans (half_spacing_le hd hgrid hsame)
  · exact (lt_abs_sub_of_not_dvd hd hu hgrid).le

/-- Another held magnitude is as near only to a quotient half way between two points of the grid,
which goes to the even one. -/
theorem even_of_abs_sub_eq (hd : 0 < d) (hu : φ.spacing u ∣ u) (hne : u ≠ φ.round n d)
    (h : |(u : ℚ) - n / d| = |(φ.round n d : ℚ) - n / d|) :
    Even (φ.round n d / φ.spacing (n / d)) := by
  have hgrid : φ.spacing (n / d) ∣ u := by
    by_contra hgrid
    exact (lt_abs_sub_of_not_dvd hd hu hgrid).ne' h
  exact (φ.round_near n hd).2
    (le_antisymm (φ.round_near n hd).1 ((half_spacing_le hd hgrid hne).trans_eq h))

/-! ## Significands -/

/-- A held magnitude is so many times the spacing there. -/
def significand (φ : Format) (units : Nat) : Nat := units / φ.spacing units

theorem spacing_two_pow_dvd (φ : Format) (exponent : Nat) :
    φ.spacing (2 ^ exponent) ∣ 2 ^ exponent := by
  have hdvd := φ.spacing_dvd_two_pow_log2 (2 ^ exponent)
  rwa [Nat.log2_two_pow] at hdvd

/-- The result of rounding lies in the range of its quotient or begins the next one. -/
theorem spacing_round (φ : Format) (n : Nat) (hd : 0 < d) :
    φ.spacing (φ.round n d) = φ.spacing (n / d) ∨
      φ.round n d = 2 ^ φ.precision * φ.spacing (n / d) := by
  have hp := φ.precision_pos
  have hquotient : n / d < 2 ^ φ.precision * φ.spacing (n / d) := by
    rw [spacing, ← Nat.pow_add]
    exact Nat.lt_log2_self.trans_le (Nat.pow_le_pow_right (by decide) (by omega))
  have hle : φ.round n d ≤ 2 ^ φ.precision * φ.spacing (n / d) :=
    round_le hd (φ.spacing_dvd_mul_pow (Nat.le_refl _)) ((Nat.div_lt_iff_lt_mul hd).1 hquotient).le
  refine (Nat.lt_or_eq_of_le hle).imp_left fun hlt => ?_
  rw [spacing, ← Nat.pow_add] at hlt
  have hupper := log2_lt_of_lt_two_pow (by omega) hlt
  rcases Nat.eq_zero_or_pos (n / d) with hzero | hpos
  · rw [hzero, Nat.log2_zero] at hupper
    rw [spacing, spacing, hzero, Nat.log2_zero]
    congr 1
    omega
  · have hbegin : 2 ^ (n / d).log2 ≤ φ.round n d :=
      le_round hd (φ.spacing_two_pow_dvd _)
        ((Nat.le_div_iff_mul_le hd).1 (Nat.log2_self_le hpos.ne'))
    have hlower := log2_le_log2 hbegin
    rw [Nat.log2_two_pow] at hlower
    rw [spacing, spacing]
    congr 1
    omega

theorem even_significand_round (hp : 1 < φ.precision) (hd : 0 < d)
    (h : Even (φ.round n d / φ.spacing (n / d))) : Even (φ.significand (φ.round n d)) := by
  rcases φ.spacing_round n hd with hsame | hnext
  · rwa [significand, hsame]
  · -- The next range begins at a power of two, whose significand has a single bit.
    have hpower : φ.round n d = 2 ^ (φ.precision - 1) * φ.spacing (φ.round n d) := by
      rw [spacing, hnext, spacing, ← Nat.pow_add, Nat.log2_two_pow, ← Nat.pow_add]
      congr 1
      omega
    rw [significand, Nat.div_eq_of_eq_mul_left (φ.spacing_pos _) hpower]
    exact Nat.even_pow.2 ⟨even_two, by omega⟩

/-! ## Overflow -/

/-- Half of the last gap above the greatest magnitude, as a rational: whatever is rounded becomes
infinite from there on. -/
def overflow (φ : Format) : ℚ := (φ.greatest + φ.lastGap / 2) / 2 ^ φ.scale

theorem overflow_pos (φ : Format) : 0 < φ.overflow := by
  have hgap : (0 : ℚ) < φ.lastGap := by exact_mod_cast Nat.two_pow_pos _
  unfold overflow
  positivity

theorem HasWholes.greatest_add_lastGap (hφ : φ.HasWholes) :
    φ.greatest + φ.lastGap = 2 ^ φ.ceiling := by
  have hsucc : φ.greatest + φ.lastGap = 2 ^ φ.precision * φ.lastGap := by
    rw [greatest, ← Nat.succ_mul, Nat.succ_eq_add_one, Nat.sub_add_cancel Nat.one_le_two_pow]
  rw [hsucc, lastGap, ← Nat.pow_add, Nat.add_sub_cancel' hφ.precision_le]

theorem HasWholes.not_even_significand_greatest (hφ : φ.HasWholes) :
    ¬ Even (φ.significand φ.greatest) := by
  have hgap : 0 < φ.lastGap := Nat.two_pow_pos _
  rw [significand, hφ.spacing_greatest, greatest, Nat.mul_div_cancel _ hgap, Nat.not_even_iff_odd]
  exact Nat.Even.sub_odd Nat.one_le_two_pow
    (Nat.even_pow.2 ⟨even_two, φ.precision_pos.ne'⟩) odd_one

/-- A quotient stays below the ceiling if it is nearer to the greatest magnitude than to the power
of two at the ceiling. -/
theorem HasWholes.log2_round_lt_iff (hφ : φ.HasWholes) (hp : 1 < φ.precision) (hd : 0 < d) :
    (φ.round n d).log2 < φ.ceiling ↔ (n : ℚ) / d < φ.greatest + φ.lastGap / 2 := by
  have hpos : (0 : ℚ) < d := by exact_mod_cast hd
  have htop : ((2 ^ φ.ceiling : ℕ) : ℚ) = φ.greatest + φ.lastGap := by
    exact_mod_cast hφ.greatest_add_lastGap.symm
  have hgap : (0 : ℚ) < φ.lastGap := by exact_mod_cast Nat.two_pow_pos _
  constructor
  · intro hlt
    by_contra hge
    rw [not_lt] at hge
    have hround : (φ.round n d : ℚ) ≤ φ.greatest := by
      exact_mod_cast Holds.le_greatest ⟨φ.spacing_dvd_round n d, hlt⟩
    have hheld := φ.spacing_two_pow_dvd φ.ceiling
    have hnear := abs_round_sub_le (n := n) hd hheld
    rw [htop, abs_of_neg (by linarith)] at hnear
    -- The power of two is at least as near, so the quotient lies half way and goes to the even one.
    have hhalf : (n : ℚ) / d = φ.greatest + φ.lastGap / 2 := by
      rcases abs_choice ((φ.greatest : ℚ) + φ.lastGap - n / d) with habs | habs <;>
        rw [habs] at hnear <;> linarith
    rw [hhalf, add_sub_add_left_eq_sub, sub_half, abs_of_pos (half_pos hgap)] at hnear
    have hgreatest : φ.round n d = φ.greatest := by
      refine Nat.le_antisymm (by exact_mod_cast hround) ?_
      exact_mod_cast show (φ.greatest : ℚ) ≤ φ.round n d by linarith
    have hne : 2 ^ φ.ceiling ≠ φ.round n d := by
      rw [hgreatest, ← hφ.greatest_add_lastGap]
      exact (Nat.lt_add_of_pos_right (Nat.two_pow_pos _)).ne'
    have heven := even_significand_round hp hd (even_of_abs_sub_eq hd hheld hne ?_)
    · rw [hgreatest] at heven
      exact hφ.not_even_significand_greatest heven
    · rw [htop, hgreatest, hhalf, add_sub_add_left_eq_sub, sub_half, sub_add_cancel_left, abs_neg]
  · intro hlt
    refine log2_lt_of_lt_two_pow φ.ceiling_pos (Nat.lt_of_not_le fun hle => ?_)
    have hle' : (φ.greatest : ℚ) + φ.lastGap ≤ φ.round n d := by
      rw [← htop]
      exact_mod_cast hle
    have hnear := abs_round_sub_le hd hφ.holds_greatest.1 (n := n)
    rw [abs_of_pos (by linarith)] at hnear
    rcases abs_choice ((φ.greatest : ℚ) - n / d) with habs | habs <;> rw [habs] at hnear <;>
      linarith

end Format

namespace Binary

variable {φ ψ : Format} {n d units : Nat} {q : ℚ} {x y : Binary φ}

theorem toRat_zero (φ : Format) : (0 : Binary φ).toRat = 0 := by
  rw [zero_eq_finite]
  exact toRat_eq_zero_iff.2 rfl

theorem le_iff_toRat_le (hx : x.isFinite = true) (hy : y.isFinite = true) :
    x ≤ y ↔ x.toRat ≤ y.toRat := by
  obtain ⟨_, _, _, rfl⟩ := exists_finite_of_isFinite hx
  obtain ⟨_, _, _, rfl⟩ := exists_finite_of_isFinite hy
  rw [le_iff_of_places rfl rfl, toRat, toRat, div_le_div_iff_of_pos_right (two_pow_scale_pos φ)]
  exact_mod_cast Iff.rfl

/-! ## Nearest numbers -/

/-- A finite number whose last significand bit is zero. -/
def HasEvenSignificand : Binary φ → Prop
  | finite _ units _ => Even (φ.significand units)
  | _ => False

/-- No finite number is nearer to a rational, and of two that are equally near it is the one with
the even significand. -/
structure IsNearest (q : ℚ) (x : Binary φ) : Prop where
  isFinite : x.isFinite = true
  le : ∀ y : Binary φ, y.isFinite = true → |x.toRat - q| ≤ |y.toRat - q|
  even : ∀ y : Binary φ, y.isFinite = true → y.toRat ≠ x.toRat →
    |y.toRat - q| = |x.toRat - q| → x.HasEvenSignificand

/-- The number that a rational is rounded to: the nearest one, or an infinity from the overflow
on. -/
inductive Rounds (q : ℚ) : Binary φ → Prop where
  | nearest {x : Binary φ} : |q| < φ.overflow → x.IsNearest q → Rounds q x
  | infinite : φ.overflow ≤ |q| → Rounds q (infinite (decide (q < 0)))

/-- The sign of a number agrees with a rational; a zero agrees with either sign. -/
def Agrees (negative : Bool) (q : ℚ) : Prop := if negative then q ≤ 0 else 0 ≤ q

theorem le_abs_toRat_sub (negative : Bool) (h : φ.Holds units) (q : ℚ) :
    |(units : ℚ) - |q| * 2 ^ φ.scale| ≤ |(finite negative units h).toRat - q| * 2 ^ φ.scale := by
  have hscale := two_pow_scale_pos φ
  have hle := mul_le_mul_of_nonneg_right
    (abs_abs_sub_abs_le (finite negative units h).toRat q) hscale.le
  rwa [abs_toRat_finite, ← abs_of_pos hscale, ← abs_mul, abs_of_pos hscale, sub_mul,
    div_mul_cancel₀ _ hscale.ne'] at hle

theorem abs_toRat_sub_eq {negative : Bool} (h : φ.Holds units) (hsign : Agrees negative q) :
    |(finite negative units h).toRat - q| * 2 ^ φ.scale = |(units : ℚ) - |q| * 2 ^ φ.scale| := by
  have hscale := two_pow_scale_pos φ
  rw [← abs_of_pos hscale, ← abs_mul, abs_of_pos hscale, sub_mul, toRat,
    div_mul_cancel₀ _ hscale.ne']
  cases negative with
  | false =>
      rw [abs_of_nonneg (show 0 ≤ q from hsign)]
      simp [signed]
  | true =>
      rw [abs_of_nonpos (show q ≤ 0 from hsign), ← abs_neg]
      simp [signed, sub_eq_add_neg, add_comm]

theorem isNearest_finite {negative : Bool} (hp : 1 < φ.precision) (hd : 0 < d)
    (hheld : φ.Holds (φ.round n d)) (hq : |q| * 2 ^ φ.scale = n / d)
    (hsign : Agrees negative q) : (finite negative (φ.round n d) hheld).IsNearest q := by
  have hscale := two_pow_scale_pos φ
  have hself := abs_toRat_sub_eq hheld hsign
  rw [hq] at hself
  refine ⟨rfl, fun y hy => ?_, fun y hy hne hnear => ?_⟩
  · obtain ⟨negative', units, h, rfl⟩ := exists_finite_of_isFinite hy
    have hother := le_abs_toRat_sub negative' h q
    rw [hq] at hother
    refine le_of_mul_le_mul_right ?_ hscale
    rw [hself]
    exact (Format.abs_round_sub_le hd h.1).trans hother
  · obtain ⟨negative', units, h, rfl⟩ := exists_finite_of_isFinite hy
    have hother := le_abs_toRat_sub negative' h q
    rw [hq, hnear, hself] at hother
    by_cases hunits : units = φ.round n d
    · -- The other one is the opposite number, so all three are zero.
      subst hunits
      have hopposite : (finite negative' (φ.round n d) h).toRat =
          -(finite negative (φ.round n d) hheld).toRat := by
        cases negative <;> cases negative' <;> simp [toRat, signed, neg_div] at hne ⊢
      have hzero : q = 0 := by
        rcases abs_eq_abs.1 hnear with hsame | hflip
        · exact absurd (sub_left_inj.1 hsame) hne
        · rw [hopposite] at hflip
          linarith
      have hround : φ.round n d = 0 := by
        have hle := Format.abs_round_sub_le (n := n) hd (Nat.dvd_zero (φ.spacing 0))
        rw [← hq, hzero] at hle
        simpa using hle
      rw [hopposite, toRat_eq_zero_iff.2 hround, neg_zero] at hne
      exact absurd rfl hne
    · exact Format.even_significand_round hp hd
        (Format.even_of_abs_sub_eq hd h.1 hunits
          (le_antisymm hother (Format.abs_round_sub_le hd h.1)))

theorem rounds_ofRatio {negative : Bool} (hφ : φ.HasWholes) (hp : 1 < φ.precision) (hd : 0 < d)
    (hq : |q| * 2 ^ φ.scale = n / d) (hsign : Agrees negative q) :
    (ofRatio negative n d : Binary φ).Rounds q := by
  have hscale := two_pow_scale_pos φ
  have hbelow : |q| < φ.overflow ↔ (φ.round n d).log2 < φ.ceiling := by
    rw [hφ.log2_round_lt_iff hp hd, ← hq, Format.overflow, lt_div_iff₀ hscale]
  unfold ofRatio
  split
  · rename_i hlog
    exact .nearest (hbelow.2 hlog) (isNearest_finite hp hd _ hq hsign)
  · rename_i hlog
    have hover := not_lt.1 (mt hbelow.1 hlog)
    have hne : q ≠ 0 := by
      rintro rfl
      exact absurd hover (not_le.2 (by rw [abs_zero]; exact φ.overflow_pos))
    have hnegative : negative = decide (q < 0) := by
      cases negative with
      | false => exact (decide_eq_false (not_lt.2 hsign)).symm
      | true => exact (decide_eq_true (lt_of_le_of_ne hsign hne)).symm
    rw [hnegative]
    exact .infinite hover

/-! ## Operations that round once -/

theorem rounds_ofUnits {negative : Bool} (hφ : φ.HasWholes) (hp : 1 < φ.precision)
    (hq : |q| * 2 ^ φ.scale = n) (hsign : Agrees negative q) :
    (ofUnits negative n : Binary φ).Rounds q :=
  rounds_ofRatio hφ hp Nat.one_pos (by rw [hq, Nat.cast_one, div_one]) hsign

theorem rounds_ofInt (hφ : φ.HasWholes) (hp : 1 < φ.precision) (k : Int) :
    (ofInt k : Binary φ).Rounds k := by
  refine rounds_ofUnits hφ hp ?_ ?_
  · rw [Nat.cast_mul, Nat.cast_natAbs, Int.cast_abs, Nat.cast_pow, Nat.cast_ofNat]
  · unfold Agrees
    split
    · rename_i h
      exact_mod_cast (of_decide_eq_true h).le
    · rename_i h
      exact_mod_cast not_lt.1 (of_decide_eq_false (Bool.eq_false_iff.2 h))

/-- Another format gets the number that is nearest there. -/
theorem rounds_convert {x : Binary ψ} (hφ : φ.HasWholes) (hp : 1 < φ.precision)
    (hx : x.isFinite = true) : (x.convert : Binary φ).Rounds x.toRat := by
  obtain ⟨negative, units, h, rfl⟩ := exists_finite_of_isFinite hx
  refine rounds_ofRatio hφ hp (Nat.two_pow_pos _) ?_ ?_
  · rw [abs_toRat_finite]
    push_cast
    ring
  · have hscale := two_pow_scale_pos ψ
    cases negative with
    | false => exact div_nonneg (by simp [signed]) hscale.le
    | true => exact div_nonpos_of_nonpos_of_nonneg (by simp [signed]) hscale.le

theorem Rounds.isNearest (h : x.Rounds q) (hq : |q| < φ.overflow) : x.IsNearest q := by
  cases h with
  | nearest _ h => exact h
  | infinite hover => exact absurd hq (not_lt.2 hover)

/-- A held rational is rounded to itself. -/
theorem IsNearest.toRat_eq (h : x.IsNearest y.toRat) (hy : y.isFinite = true) :
    x.toRat = y.toRat := by
  have hle := h.le y hy
  rw [sub_self, abs_zero, abs_nonpos_iff] at hle
  exact sub_eq_zero.1 hle

end Binary

end SpriteStage
