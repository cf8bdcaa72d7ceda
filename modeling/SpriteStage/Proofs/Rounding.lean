import Mathlib.Algebra.Order.Ring.Nat
import Mathlib.Tactic.Linarith
import Mathlib.Tactic.Ring
import SpriteStage.Binary.Basic

/-!
# Rounding against held magnitudes

A magnitude that a format holds is a significand of `precision` bits times a power of two.
`Format.round` never passes such a magnitude: a quotient not below it is not rounded below it
(`le_round`), and one not above it is not rounded above it (`round_le`). What it does move, it moves
by at most half the spacing (`round_error_le`).
-/

namespace SpriteStage

/-! ## Rounding to a whole number -/

theorem le_roundQuotient {k n d : Nat} (hd : 0 < d) (h : k * d ≤ n) :
    k ≤ roundQuotient n d := by
  have hk : k ≤ n / d := (Nat.le_div_iff_mul_le hd).2 h
  unfold roundQuotient
  dsimp only
  split <;> omega

theorem roundQuotient_le {k n d : Nat} (hd : 0 < d) (h : n ≤ k * d) :
    roundQuotient n d ≤ k := by
  rcases Nat.lt_or_eq_of_le h with hlt | rfl
  · have hk : n / d < k := (Nat.div_lt_iff_lt_mul hd).2 hlt
    exact (roundQuotient_le_succ n d).trans hk
  · rw [roundQuotient_of_dvd hd (Nat.dvd_mul_left d k), Nat.mul_div_cancel k hd]

/-- A greater quotient is not rounded to a smaller number. -/
theorem roundQuotient_mono {m n d : Nat} (hd : 0 < d) (h : m ≤ n) :
    roundQuotient m d ≤ roundQuotient n d := by
  rcases Nat.lt_or_eq_of_le (Nat.div_le_div_right (c := d) h) with hlt | heq
  · calc roundQuotient m d ≤ m / d + 1 := roundQuotient_le_succ m d
      _ ≤ n / d := hlt
      _ ≤ roundQuotient n d := le_roundQuotient hd (Nat.div_mul_le_self n d)
  · -- Of two quotients with one whole part, the greater has the greater rest.
    have hm := Nat.div_add_mod m d
    have hn := Nat.div_add_mod n d
    unfold roundQuotient
    dsimp only
    rw [heq] at hm ⊢
    split <;> split <;> omega

/-- A quotient less than half above a whole number goes down to it. -/
theorem roundQuotient_le_of_lt_half {k n d : Nat} (h : 2 * n < 2 * (k * d) + d) :
    roundQuotient n d ≤ k := by
  have hd : 0 < d := by
    rcases Nat.eq_zero_or_pos d with rfl | hd
    · omega
    · exact hd
  have hle : n / d ≤ k := by
    refine Nat.lt_succ_iff.1 ((Nat.div_lt_iff_lt_mul hd).2 ?_)
    rw [Nat.succ_mul]
    omega
  rcases Nat.lt_or_eq_of_le hle with hlt | heq
  · exact (roundQuotient_le_succ n d).trans hlt
  · have hdm := Nat.div_add_mod n d
    rw [heq, Nat.mul_comm] at hdm
    have hrest : 2 * (n % d) < d := by omega
    unfold roundQuotient
    dsimp only
    rw [if_pos (.inl hrest), heq]

theorem roundQuotient_error_le {n d : Nat} (hd : 0 < d) :
    2 * n ≤ 2 * (roundQuotient n d * d) + d := by
  have hdm := Nat.div_add_mod n d
  have hmul : n / d * d = d * (n / d) := Nat.mul_comm _ _
  have hlt := Nat.mod_lt n hd
  unfold roundQuotient
  dsimp only
  split
  · omega
  · rw [Nat.add_mul]
    omega

namespace Format

variable {φ : Format}

/-! ## Held magnitudes -/

theorem ceiling_pos (φ : Format) : 0 < φ.ceiling :=
  Nat.add_pos_left (Nat.two_pow_pos _) _

theorem lt_two_pow_of_log2_lt {units n : Nat} (h : units.log2 < n) : units < 2 ^ n :=
  Nat.lt_log2_self.trans_le (Nat.pow_le_pow_right (by decide) h)

theorem log2_lt_of_lt_two_pow {units n : Nat} (hn : 0 < n) (h : units < 2 ^ n) :
    units.log2 < n := by
  rcases Nat.eq_zero_or_pos units with rfl | hpos
  · simpa using hn
  · exact (Nat.log2_lt hpos.ne').2 h

theorem Holds.lt_two_pow {units : Nat} (h : φ.Holds units) : units < 2 ^ φ.ceiling :=
  lt_two_pow_of_log2_lt h.2

theorem log2_le_log2 {a b : Nat} (h : a ≤ b) : a.log2 ≤ b.log2 := by
  rcases Nat.eq_zero_or_pos a with rfl | ha
  · simp
  · exact (Nat.le_log2 (by omega)).2 ((Nat.log2_self_le ha.ne').trans h)

/-- The coarser grid of the greater magnitudes is part of the finer one below. -/
theorem spacing_dvd_spacing {a b : Nat} (h : a ≤ b) : φ.spacing a ∣ φ.spacing b := by
  have hlog : a.log2 ≤ b.log2 := log2_le_log2 h
  exact Nat.pow_dvd_pow 2 (by omega)

theorem spacing_dvd_two_pow_log2 (φ : Format) (units : Nat) :
    φ.spacing units ∣ 2 ^ units.log2 := by
  have hp := φ.precision_pos
  exact Nat.pow_dvd_pow 2 (by omega)

/-- A held magnitude is a short significand times a power of two. -/
theorem exists_significand {units : Nat} (h : φ.spacing units ∣ units) :
    ∃ significand exponent, significand < 2 ^ φ.precision ∧
      units = significand * 2 ^ exponent := by
  refine ⟨units / φ.spacing units, units.log2 + 1 - φ.precision, ?_, (Nat.div_mul_cancel h).symm⟩
  apply Nat.div_lt_of_lt_mul
  calc units < 2 ^ (units.log2 + 1) := Nat.lt_log2_self
    _ ≤ 2 ^ ((units.log2 + 1 - φ.precision) + φ.precision) :=
      Nat.pow_le_pow_right (by decide) (by omega)
    _ = φ.spacing units * 2 ^ φ.precision := Nat.pow_add ..

/-- A short significand times a power of two below the ceiling is held. -/
theorem holds_of_significand {significand exponent : Nat} (hs : significand ≤ 2 ^ φ.precision)
    (hlt : significand * 2 ^ exponent < 2 ^ φ.ceiling) : φ.Holds (significand * 2 ^ exponent) := by
  exact ⟨φ.spacing_dvd_mul_pow hs, log2_lt_of_lt_two_pow φ.ceiling_pos hlt⟩

/-! ## Rounding does not pass a held magnitude -/

variable {units numerator denominator : Nat}

theorem round_eq_mul (φ : Format) (numerator denominator : Nat) :
    φ.round numerator denominator =
      roundQuotient numerator (denominator * φ.spacing (numerator / denominator)) *
        φ.spacing (numerator / denominator) := rfl

private theorem le_round_of_grid (hd : 0 < denominator)
    (hgrid : φ.spacing (numerator / denominator) ∣ units)
    (hle : units * denominator ≤ numerator) : units ≤ φ.round numerator denominator := by
  obtain ⟨k, rfl⟩ := hgrid
  rw [round_eq_mul, Nat.mul_comm _ k]
  refine Nat.mul_le_mul_right _ (le_roundQuotient (Nat.mul_pos hd (φ.spacing_pos _)) ?_)
  calc k * (denominator * φ.spacing (numerator / denominator))
      = φ.spacing (numerator / denominator) * k * denominator := by ring
    _ ≤ numerator := hle

theorem round_le (hd : 0 < denominator) (hheld : φ.spacing units ∣ units)
    (hle : numerator ≤ units * denominator) : φ.round numerator denominator ≤ units := by
  have hquotient : numerator / denominator ≤ units :=
    Nat.div_le_of_le_mul (by rwa [Nat.mul_comm])
  obtain ⟨k, hk⟩ := (spacing_dvd_spacing hquotient).trans hheld
  rw [round_eq_mul]
  have hround : roundQuotient numerator
      (denominator * φ.spacing (numerator / denominator)) ≤ k := by
    refine roundQuotient_le (Nat.mul_pos hd (φ.spacing_pos _)) ?_
    calc numerator ≤ units * denominator := hle
      _ = k * (denominator * φ.spacing (numerator / denominator)) := by
        conv_lhs => rw [hk]
        ring
  calc _ ≤ k * φ.spacing (numerator / denominator) := Nat.mul_le_mul_right _ hround
    _ = units := by rw [Nat.mul_comm]; exact hk.symm

theorem le_round (hd : 0 < denominator) (hheld : φ.spacing units ∣ units)
    (hle : units * denominator ≤ numerator) : units ≤ φ.round numerator denominator := by
  have hquotient : units ≤ numerator / denominator := (Nat.le_div_iff_mul_le hd).2 hle
  rcases Nat.lt_or_ge units.log2 (numerator / denominator).log2 with hlog | hlog
  · -- The quotient lies in a higher range: the power of two that begins it is on the grid.
    have hpos : numerator / denominator ≠ 0 := by
      intro hzero
      simp [hzero] at hlog
    have hbegin : 2 ^ (numerator / denominator).log2 * denominator ≤ numerator :=
      (Nat.le_div_iff_mul_le hd).1 (Nat.log2_self_le hpos)
    exact (lt_two_pow_of_log2_lt hlog).le.trans
      (le_round_of_grid hd (φ.spacing_dvd_two_pow_log2 _) hbegin)
  · have hsame : (numerator / denominator).log2 = units.log2 :=
      Nat.le_antisymm hlog (log2_le_log2 hquotient)
    refine le_round_of_grid hd ?_ hle
    rw [spacing, hsame]
    exact hheld

theorem round_mul_self (hd : 0 < denominator) (hheld : φ.spacing units ∣ units) :
    φ.round (units * denominator) denominator = units :=
  Nat.le_antisymm (round_le hd hheld (Nat.le_refl _)) (le_round hd hheld (Nat.le_refl _))

/-- The gap above a held magnitude does not reach beyond the next power of two. -/
theorem add_spacing_le (h : φ.spacing units ∣ units) :
    units + φ.spacing units ≤ 2 ^ (units.log2 + 1) := by
  have hpower : φ.spacing units ∣ 2 ^ (units.log2 + 1) :=
    (φ.spacing_dvd_two_pow_log2 units).trans (Nat.pow_dvd_pow 2 (Nat.le_succ _))
  obtain ⟨k, hk⟩ := h
  obtain ⟨m, hm⟩ := hpower
  have hlt : units < 2 ^ (units.log2 + 1) := Nat.lt_log2_self
  have hkm : k < m := Nat.lt_of_mul_lt_mul_left (a := φ.spacing units) (by rwa [← hk, ← hm])
  calc units + φ.spacing units = φ.spacing units * (k + 1) := by rw [Nat.mul_succ, ← hk]
    _ ≤ φ.spacing units * m := Nat.mul_le_mul_left _ hkm
    _ = 2 ^ (units.log2 + 1) := hm.symm

/-- What exceeds a held magnitude by less than half of the gap above it is rounded back. -/
theorem round_le_of_lt_half {n : Nat} (hheld : φ.spacing units ∣ units)
    (h : 2 * n < 2 * units + φ.spacing units) : φ.round n 1 ≤ units := by
  rcases Nat.le_total n units with hle | hge
  · exact round_le Nat.one_pos hheld (by omega)
  have hgap := add_spacing_le hheld
  have hlog : n.log2 = units.log2 := by
    have hbelow : n < 2 ^ (units.log2 + 1) := by omega
    have hlt := log2_lt_of_lt_two_pow (Nat.succ_pos _) hbelow
    exact Nat.le_antisymm (Nat.lt_succ_iff.1 hlt) (log2_le_log2 hge)
  have hspacing : φ.spacing n = φ.spacing units := by rw [spacing, hlog, spacing]
  obtain ⟨k, hk⟩ := hheld
  rw [Nat.mul_comm] at hk
  have hquotient : roundQuotient n (φ.spacing units) ≤ k :=
    roundQuotient_le_of_lt_half (by rwa [← hk])
  rw [round_eq_mul, Nat.div_one, Nat.one_mul, hspacing]
  exact (Nat.mul_le_mul_right _ hquotient).trans hk.ge

/-- Rounding moves a quotient down by at most half the spacing there. -/
theorem round_error_le (φ : Format) (numerator : Nat) (hd : 0 < denominator) :
    2 * numerator ≤ 2 * (φ.round numerator denominator * denominator) +
      denominator * φ.spacing (numerator / denominator) := by
  have herror := roundQuotient_error_le (n := numerator)
    (Nat.mul_pos hd (φ.spacing_pos (numerator / denominator)))
  rw [round_eq_mul]
  calc 2 * numerator ≤ _ := herror
    _ = _ := by ring

end Format

end SpriteStage
