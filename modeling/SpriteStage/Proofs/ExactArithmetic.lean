import SpriteStage.Proofs.Rounding

/-!
# Arithmetic without rounding

An operation on finite numbers whose exact result is a held magnitude returns that result. Two held
magnitudes are multiples of one power of two, one of them by a short significand; so is what is left
of the one after whole multiples of the other, and it is held as well (`Format.Holds.remainder`).
-/

namespace SpriteStage

namespace Format

variable {φ : Format} {a b : Nat}

/-! ## Two held magnitudes -/

theorem Holds.exists_common_exponent (ha : φ.Holds a) (hb : φ.Holds b) :
    ∃ m n exponent, a = m * 2 ^ exponent ∧ b = n * 2 ^ exponent ∧
      (m < 2 ^ φ.precision ∨ n < 2 ^ φ.precision) := by
  obtain ⟨m, e, hm, hae⟩ := exists_significand ha.1
  obtain ⟨n, f, hn, hbf⟩ := exists_significand hb.1
  rcases Nat.le_total e f with hef | hfe
  · refine ⟨m, n * 2 ^ (f - e), e, hae, ?_, Or.inl hm⟩
    rw [hbf, Nat.mul_assoc, ← Nat.pow_add, Nat.sub_add_cancel hef]
  · refine ⟨m * 2 ^ (e - f), n, f, ?_, hbf, Or.inr hn⟩
    rw [hae, Nat.mul_assoc, ← Nat.pow_add, Nat.sub_add_cancel hfe]

/-- What one held magnitude leaves of another after whole multiples is held, if it is no greater
than the first. -/
theorem Holds.remainder {k : Nat} (ha : φ.Holds a) (hb : φ.Holds b) (hlt : k * b < a)
    (hle : a ≤ (k + 1) * b) : φ.Holds (a - k * b) := by
  have hbound : a - k * b < 2 ^ φ.ceiling := (Nat.sub_le _ _).trans_lt ha.lt_two_pow
  obtain ⟨m, n, e, rfl, rfl, hshort⟩ := ha.exists_common_exponent hb
  have hfactor : m * 2 ^ e - k * (n * 2 ^ e) = (m - k * n) * 2 ^ e := by
    rw [Nat.sub_mul, Nat.mul_assoc]
  have hleft : m ≤ (k + 1) * n := by
    refine Nat.le_of_mul_le_mul_right ?_ (Nat.two_pow_pos e)
    rwa [Nat.mul_assoc]
  rw [Nat.add_mul, Nat.one_mul] at hleft
  rw [hfactor] at hbound ⊢
  refine holds_of_significand ?_ hbound
  rcases hshort with hm | hn <;> omega

/-- A held magnitude that exceeds a whole multiple of another does so by a noticeable part of it. -/
theorem Holds.lt_mul_excess {k : Nat} (ha : φ.Holds a) (hb : φ.Holds b) (hk : 1 ≤ k)
    (hlt : k * b < a) : b < 2 ^ φ.precision * (a - k * b) := by
  obtain ⟨m, n, e, rfl, rfl, hshort⟩ := ha.exists_common_exponent hb
  have hexcess : 2 ^ e ≤ m * 2 ^ e - k * (n * 2 ^ e) := by
    have hsignificand : k * n < m := by
      refine Nat.lt_of_mul_lt_mul_right (a := 2 ^ e) ?_
      rwa [Nat.mul_assoc]
    rw [← Nat.mul_assoc, ← Nat.sub_mul]
    exact Nat.le_mul_of_pos_left _ (by omega)
  refine Nat.lt_of_lt_of_le ?_ (Nat.mul_le_mul_left _ hexcess)
  rcases hshort with hm | hn
  · calc n * 2 ^ e ≤ k * (n * 2 ^ e) := Nat.le_mul_of_pos_left _ hk
      _ < m * 2 ^ e := hlt
      _ ≤ 2 ^ φ.precision * 2 ^ e := Nat.mul_le_mul_right _ hm.le
  · exact Nat.mul_lt_mul_of_pos_right hn (Nat.two_pow_pos e)

/-- A format with room for every whole number of `precision` bits. -/
def HasWholes (φ : Format) : Prop := φ.scale + φ.precision < φ.ceiling

theorem single_hasWholes : single.HasWholes := by unfold HasWholes; decide

theorem double_hasWholes : double.HasWholes := by unfold HasWholes; decide

theorem HasWholes.holds (h : φ.HasWholes) {k : Nat} (hk : k ≤ 2 ^ φ.precision) :
    φ.Holds (k * 2 ^ φ.scale) := by
  refine holds_of_significand hk ?_
  calc k * 2 ^ φ.scale ≤ 2 ^ φ.precision * 2 ^ φ.scale := Nat.mul_le_mul_right _ hk
    _ = 2 ^ (φ.scale + φ.precision) := by rw [← Nat.pow_add, Nat.add_comm]
    _ < 2 ^ φ.ceiling := Nat.pow_lt_pow_right (by decide) h

/-- A held magnitude that is not a whole number is short of `precision` bits of them. -/
theorem Holds.lt_of_not_dvd (ha : φ.Holds a) (hwhole : ¬ 2 ^ φ.scale ∣ a) :
    a < 2 ^ (φ.precision + φ.scale) := by
  have hlog : a.log2 < φ.precision + φ.scale := by
    by_contra hge
    exact hwhole ((Nat.pow_dvd_pow 2 (by omega)).trans ha.1)
  exact lt_two_pow_of_log2_lt hlog

end Format

namespace Binary

variable {φ ψ : Format} {a b : Bool} {m n units : Nat}
  {hm : φ.Holds m} {hn : φ.Holds n}

theorem exists_finite_of_isFinite {x : Binary φ} (h : x.isFinite = true) :
    ∃ negative units held, x = finite negative units held := by
  cases x with
  | finite negative units held => exact ⟨negative, units, held, rfl⟩
  | _ => cases h

/-! ## Exact results -/

theorem ofRatio_mul_self (negative : Bool) {denominator : Nat} (hd : 0 < denominator)
    (h : φ.Holds units) :
    ofRatio negative (units * denominator) denominator = finite negative units h := by
  have hround := Format.round_mul_self hd h.1
  simp only [ofRatio, hround]
  exact dif_pos h.2

theorem mul_eq_of_holds (h : φ.Holds units) (hproduct : m * n = units * 2 ^ φ.scale) :
    finite a m hm * finite b n hn = finite (a != b) units h := by
  change ofRatio (a != b) (m * n) (2 ^ φ.scale) = _
  rw [hproduct]
  exact ofRatio_mul_self _ (Nat.two_pow_pos _) h

theorem sub_eq_of_holds (h : φ.Holds units) (hlt : n < m) (hsub : m - n = units) :
    finite false m hm - finite false n hn = finite false units h := by
  change addFinite false m true n = _
  have hsum : signed false m + signed true n = (units : Int) := by
    simp only [signed, Bool.false_eq_true, if_false, if_true]
    omega
  have hpos : (units : Int) ≠ 0 := by omega
  have hnonneg : ¬ (units : Int) < 0 := by omega
  simp only [addFinite, hsum, if_neg hpos, Int.natAbs_natCast, hnonneg, decide_false]
  exact ofUnits_of_holds false h

theorem div_eq_finite (hpos : 0 < n) (h : (φ.round (m * 2 ^ φ.scale) n).log2 < φ.ceiling) :
    finite a m hm / finite b n hn =
      finite (a != b) (φ.round (m * 2 ^ φ.scale) n) ⟨φ.spacing_dvd_round _ _, h⟩ := by
  change (if n = 0 then _ else ofRatio (a != b) (m * 2 ^ φ.scale) n) = _
  rw [if_neg hpos.ne', ofRatio, dif_pos h]

theorem convert_eq_of_holds (h : ψ.Holds units)
    (hvalue : m * 2 ^ ψ.scale = units * 2 ^ φ.scale) :
    (finite a m hm).convert = finite a units h := by
  change ofRatio a (m * 2 ^ ψ.scale) (2 ^ φ.scale) = _
  rw [hvalue]
  exact ofRatio_mul_self _ (Nat.two_pow_pos _) h

/-! ## Whole numbers -/

theorem ofInt_natCast (hφ : φ.HasWholes) {k : Nat} (hk : k ≤ 2 ^ φ.precision) :
    (ofInt k : Binary φ) = finite false (k * 2 ^ φ.scale) (hφ.holds hk) :=
  ofUnits_of_holds false (hφ.holds hk)

theorem one_eq_finite (hφ : φ.HasWholes) :
    (1 : Binary φ) = finite false (1 * 2 ^ φ.scale) (hφ.holds Nat.one_le_two_pow) :=
  ofInt_natCast hφ Nat.one_le_two_pow

theorem truncate_finite_whole {k : Nat} {h : φ.Holds (k * 2 ^ φ.scale)} {high : Int}
    (hk : (k : Int) ≤ high) : (finite false (k * 2 ^ φ.scale) h).truncate 0 high = k := by
  have hdiv : k * 2 ^ φ.scale / 2 ^ φ.scale = k := Nat.mul_div_cancel _ (Nat.two_pow_pos _)
  simp only [truncate, hdiv, signed, Bool.false_eq_true, if_false]
  omega

/-- The least whole number that is not below a positive number is never rounded. -/
theorem exists_ceil_eq (hφ : φ.HasWholes) (h : φ.Holds units) :
    ∃ k held, (finite false units h).ceil = finite false (k * 2 ^ φ.scale) held ∧
      ∀ bound, k ≤ bound ↔ units ≤ bound * 2 ^ φ.scale := by
  have hscale : 0 < 2 ^ φ.scale := Nat.two_pow_pos _
  have hceil : ∀ bound, (units + (2 ^ φ.scale - 1)) / 2 ^ φ.scale ≤ bound ↔
      units ≤ bound * 2 ^ φ.scale := by
    intro bound
    rw [← Nat.lt_succ_iff, Nat.div_lt_iff_lt_mul hscale, Nat.succ_mul]
    omega
  have hheld : φ.Holds ((units + (2 ^ φ.scale - 1)) / 2 ^ φ.scale * 2 ^ φ.scale) := by
    by_cases hwhole : 2 ^ φ.scale ∣ units
    · obtain ⟨k, rfl⟩ := hwhole
      have hk : (2 ^ φ.scale * k + (2 ^ φ.scale - 1)) / 2 ^ φ.scale = k := by
        rw [Nat.mul_add_div hscale, Nat.div_eq_of_lt (by omega), Nat.add_zero]
      rw [hk, Nat.mul_comm]
      exact h
    · refine hφ.holds ((hceil _).2 ?_)
      rw [← Nat.pow_add]
      exact (h.lt_of_not_dvd hwhole).le
  exact ⟨_, hheld, ofUnits_of_holds false hheld, hceil⟩

/-! ## Order -/

theorem finite_lt_finite : finite false m hm < finite false n hn ↔ m < n := by
  change some (compare (signed false m) (signed false n)) = some Ordering.lt ↔ m < n
  simp [signed, compare_lt_iff_lt]

theorem finite_le_finite : finite false m hm ≤ finite false n hn ↔ m ≤ n := by
  change (some (compare (signed false m) (signed false n)) = some Ordering.lt ∨
    some (compare (signed false m) (signed false n)) = some Ordering.eq) ↔ m ≤ n
  simp [signed, compare_lt_iff_lt]
  omega

theorem greater_finite :
    (finite false m hm).greater (finite false n hn) =
      if m < n then finite false n hn else finite false m hm := by
  simp [greater, isNaN, finite_lt_finite]

theorem clamp_finite {low high : Nat} {hlow : φ.Holds low} {hhigh : φ.Holds high}
    (h₁ : low ≤ m) (h₂ : m ≤ high) :
    (finite false m hm).clamp (finite false low hlow) (finite false high hhigh) =
      finite false m hm := by
  simp [clamp, finite_lt_finite, Nat.not_lt.2 h₁, Nat.not_lt.2 h₂]

end Binary

end SpriteStage
