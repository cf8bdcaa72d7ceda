import SpriteStage.Proofs.Places
import SpriteStage.Proofs.RationalValue

/-!
# Magnitudes within a bound

Bounds on the terms of an operation bound its result: a sum is within every held magnitude that the
exact one exceeds by less than half of the gap above it. No finite number exceeds `Format.greatest`,
so adding to one a number below half of the last gap never leads to an infinity, however often it
is done (`Binary.isFinite_add`).
-/

namespace SpriteStage

namespace Format

variable {φ : Format} {units : Nat}

/-- The distance between the greatest magnitude and its neighbours. -/
def lastGap (φ : Format) : Nat := 2 ^ (φ.ceiling - φ.precision)

/-- The greatest magnitude that a format holds. -/
def greatest (φ : Format) : Nat := (2 ^ φ.precision - 1) * φ.lastGap

theorem Holds.le_greatest (h : φ.Holds units) : units ≤ φ.greatest := by
  have hsignificand : units / φ.spacing units < 2 ^ φ.precision := by
    refine Nat.div_lt_of_lt_mul (Nat.lt_log2_self.trans_le ?_)
    rw [spacing, ← Nat.pow_add]
    exact Nat.pow_le_pow_right (by decide) (by omega)
  have hspacing : φ.spacing units ≤ φ.lastGap := by
    have hlog := h.2
    exact Nat.pow_le_pow_right (by decide) (by omega)
  calc units = units / φ.spacing units * φ.spacing units := (Nat.div_mul_cancel h.1).symm
    _ ≤ φ.greatest := Nat.mul_le_mul (Nat.le_sub_one_of_lt hsignificand) hspacing

theorem HasWholes.precision_le (h : φ.HasWholes) : φ.precision ≤ φ.ceiling := by
  unfold HasWholes at h
  omega

theorem HasWholes.holds_greatest (h : φ.HasWholes) : φ.Holds φ.greatest := by
  refine holds_of_significand (Nat.sub_le _ _) ?_
  calc φ.greatest < 2 ^ φ.precision * φ.lastGap :=
        Nat.mul_lt_mul_of_pos_right (Nat.sub_one_lt (Nat.two_pow_pos _).ne') (Nat.two_pow_pos _)
    _ = 2 ^ φ.ceiling := by rw [lastGap, ← Nat.pow_add, Nat.add_sub_cancel' h.precision_le]

theorem HasWholes.spacing_greatest (h : φ.HasWholes) : φ.spacing φ.greatest = φ.lastGap := by
  have hp := φ.precision_pos
  have hle := h.precision_le
  have hbegin : 2 ^ (φ.ceiling - 1) ≤ φ.greatest := by
    have hhalf : 2 ^ (φ.precision - 1) ≤ 2 ^ φ.precision - 1 :=
      Nat.le_sub_one_of_lt (Nat.pow_lt_pow_right (by decide) (by omega))
    have hsum : φ.precision - 1 + (φ.ceiling - φ.precision) = φ.ceiling - 1 := by omega
    calc 2 ^ (φ.ceiling - 1) = 2 ^ (φ.precision - 1) * φ.lastGap := by
          rw [lastGap, ← Nat.pow_add, hsum]
      _ ≤ φ.greatest := Nat.mul_le_mul_right _ hhalf
  have hne : φ.greatest ≠ 0 := ((Nat.two_pow_pos _).trans_le hbegin).ne'
  have hlog : φ.greatest.log2 = φ.ceiling - 1 :=
    Nat.le_antisymm (Nat.le_sub_one_of_lt h.holds_greatest.2) ((Nat.le_log2 hne).2 hbegin)
  have hexponent : φ.ceiling - 1 + 1 - φ.precision = φ.ceiling - φ.precision := by omega
  rw [spacing, hlog, hexponent, lastGap]

end Format

namespace Binary

variable {φ : Format} {x y : Binary φ} {bound m n : Nat} {a b : Bool}

/-! ## Bounds -/

/-- A finite number whose magnitude is at most so many units. -/
def Within (bound : Nat) : Binary φ → Prop
  | finite _ units _ => units ≤ bound
  | _ => False

instance (bound : Nat) : DecidablePred (Within bound : Binary φ → Prop)
  | nan => inferInstanceAs (Decidable False)
  | infinite _ => inferInstanceAs (Decidable False)
  | finite _ units _ => inferInstanceAs (Decidable (units ≤ bound))

theorem Within.exists_finite (h : x.Within bound) :
    ∃ negative units held, x = finite negative units held ∧ units ≤ bound := by
  cases x with
  | finite negative units held => exact ⟨negative, units, held, rfl, h⟩
  | _ => exact h.elim

theorem Within.isFinite (h : x.Within bound) : x.isFinite = true := by
  obtain ⟨_, _, _, rfl, -⟩ := h.exists_finite
  rfl

theorem within_greatest (h : x.isFinite = true) : x.Within φ.greatest := by
  obtain ⟨_, _, held, rfl⟩ := exists_finite_of_isFinite h
  exact held.le_greatest

theorem within_ofRatio (hbound : φ.Holds bound) (h : φ.round m n ≤ bound) :
    (ofRatio a m n : Binary φ).Within bound := by
  have hlog : (φ.round m n).log2 < φ.ceiling := (Format.log2_le_log2 h).trans_lt hbound.2
  rw [ofRatio, dif_pos hlog]
  exact h

theorem natAbs_signed (a : Bool) (m : Nat) : (signed a m).natAbs = m := by
  cases a
  · exact Int.natAbs_natCast m
  · exact (Int.natAbs_neg m).trans (Int.natAbs_natCast m)

theorem within_addFinite (hbound : φ.Holds bound)
    (h : 2 * (m + n) < 2 * bound + φ.spacing bound) :
    (addFinite a m b n : Binary φ).Within bound := by
  have hsum : (signed a m + signed b n).natAbs ≤ m + n :=
    (Int.natAbs_add_le _ _).trans_eq (by rw [natAbs_signed, natAbs_signed])
  unfold addFinite
  dsimp only
  split
  · exact within_ofRatio hbound (Format.round_le_of_lt_half hbound.1 (by omega))
  · exact within_ofRatio hbound (Format.round_le_of_lt_half hbound.1 (by omega))

theorem Within.add (hx : x.Within m) (hy : y.Within n) (hbound : φ.Holds bound)
    (h : 2 * (m + n) < 2 * bound + φ.spacing bound) : (x + y).Within bound := by
  obtain ⟨_, _, _, rfl, h₁⟩ := hx.exists_finite
  obtain ⟨_, _, _, rfl, h₂⟩ := hy.exists_finite
  exact within_addFinite hbound (by omega)

theorem Within.mul (hx : x.Within m) (hy : y.Within n) (hbound : φ.Holds bound)
    (h : m * n ≤ bound * 2 ^ φ.scale) : (x * y).Within bound := by
  obtain ⟨_, _, _, rfl, h₁⟩ := hx.exists_finite
  obtain ⟨_, _, _, rfl, h₂⟩ := hy.exists_finite
  have hproduct := (Nat.mul_le_mul h₁ h₂).trans h
  exact within_ofRatio hbound (Format.round_le (Nat.two_pow_pos _) hbound.1 hproduct)

/-- A sum is rounded back to the greatest number from below half of the last gap. -/
theorem isFinite_add (hφ : φ.HasWholes) (hx : x.Within m) (hy : y.Within n)
    (h : 2 * (m + n) < 2 * φ.greatest + φ.lastGap) : (x + y).isFinite = true := by
  rw [← hφ.spacing_greatest] at h
  exact (hx.add hy hφ.holds_greatest h).isFinite

variable {hn : φ.Holds n}

theorem within_rem (hx : x.isFinite = true) (hpos : 0 < n) :
    (x % finite false n hn).Within n := by
  obtain ⟨negative, units, _, rfl⟩ := exists_finite_of_isFinite hx
  change (if n = 0 then nan else ofUnits negative (units % n) : Binary φ).Within n
  rw [if_neg hpos.ne']
  refine within_ofRatio hn (Format.round_le Nat.one_pos hn.1 ?_)
  rw [Nat.mul_one]
  exact (Nat.mod_lt units hpos).le

/-! ## Bounds and order -/

theorem place_zero (φ : Format) : (0 : Binary φ).place = some 0 := by
  rw [zero_eq_finite]
  rfl

theorem not_lt_iff (hx : x.isFinite = true) (hy : y.isFinite = true) : ¬ x < y ↔ y ≤ x := by
  obtain ⟨_, _, _, rfl⟩ := exists_finite_of_isFinite hx
  obtain ⟨_, _, _, rfl⟩ := exists_finite_of_isFinite hy
  rw [le_iff_of_places rfl rfl, lt_iff_of_places rfl rfl, Int.not_lt]

theorem within_of_abs_le (hx : x.isFinite = true) (h : x.abs ≤ finite false n hn) :
    x.Within n := by
  obtain ⟨_, _, _, rfl⟩ := exists_finite_of_isFinite hx
  exact finite_le_finite.1 h

theorem le_of_signed_lt (h₀ : 0 ≤ signed a m) (h : signed a m < signed false n) : m ≤ n := by
  cases a <;> simp only [signed, if_true, Bool.false_eq_true, if_false] at h₀ h <;> omega

theorem within_of_nonneg_of_lt (h₀ : 0 ≤ x) (h : x < finite false n hn) : x.Within n := by
  cases x with
  | nan => cases h
  | infinite negative =>
      -- An infinity stands at the ceiling, which no held magnitude reaches.
      have hceiling : 2 ^ φ.ceiling ≤ n := le_of_signed_lt
        ((le_iff_of_places (place_zero φ) rfl).1 h₀) ((lt_iff_of_places rfl rfl).1 h)
      exact absurd hn.lt_two_pow (Nat.not_lt.2 hceiling)
  | finite negative units held =>
      exact le_of_signed_lt
        ((le_iff_of_places (place_zero φ) rfl).1 h₀) ((lt_iff_of_places rfl rfl).1 h)

/-- A sum that is not negative is not rounded below zero. -/
theorem zero_le_addFinite (h : 0 ≤ signed a m + signed b n) :
    (0 : Binary φ) ≤ addFinite a m b n := by
  have hzero : φ.Holds 0 := ⟨Nat.dvd_zero _, φ.ceiling_pos⟩
  unfold addFinite
  dsimp only
  split
  · rw [ofUnits_of_holds _ hzero, le_iff_of_places (place_zero φ) rfl]
    cases a && b <;> decide
  · rw [decide_eq_false (Int.not_lt.2 h), ofUnits, ofRatio]
    split <;> exact (le_iff_of_places (place_zero φ) rfl).2 (Int.natCast_nonneg _)

end Binary

end SpriteStage
