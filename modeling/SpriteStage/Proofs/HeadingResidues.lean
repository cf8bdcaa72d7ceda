import SpriteStage.Proofs.NearestNumbers
import SpriteStage.Proofs.SanePoses

/-!
# Headings as residues

Over the rationals an angle leaves a residue below a full turn. The remainder of two numbers is
exact, so `wrapHeading` misses the residue only where it has to add a turn to a negative remainder:
the sum is rounded once, and it may be rounded to the full turn.
-/

namespace SpriteStage

open Binary

/-! ## Remainders -/

theorem Format.Holds.mod {φ : Format} {a b : Nat} (ha : φ.Holds a) (hb : φ.Holds b)
    (hpos : 0 < b) : φ.Holds (a % b) := by
  have hdm := Nat.div_add_mod a b
  rw [Nat.mul_comm] at hdm
  have hlt := Nat.mod_lt a hpos
  rcases Nat.eq_zero_or_pos (a % b) with hzero | hrest
  · rw [hzero]
    exact ⟨Nat.dvd_zero _, φ.ceiling_pos⟩
  · have hleft : a % b = a - a / b * b := by omega
    rw [hleft]
    exact ha.remainder hb (by omega) (by rw [Nat.add_mul]; omega)

theorem Binary.rem_eq_finite {φ : Format} {m n : Nat} {a b : Bool} (hm : φ.Holds m)
    (hn : φ.Holds n) (hpos : 0 < n) :
    finite a m hm % finite b n hn = finite a (m % n) (hm.mod hn hpos) := by
  change (if n = 0 then nan else ofUnits a (m % n)) = _
  rw [if_neg hpos.ne']
  exact ofUnits_of_holds a (hm.mod hn hpos)

variable {units : Nat} {negative : Bool} {hu : Format.single.Holds units}

/-! ## Residues -/

/-- What an angle exceeds whole turns by. -/
def turnResidue (degrees : ℚ) : ℚ := degrees - 360 * ⌊degrees / 360⌋

theorem fullTurn_pos : 0 < fullTurn := by decide

theorem cast_fullTurn : (fullTurn : ℚ) = 360 * 2 ^ Format.single.scale := by
  rw [fullTurn]
  push_cast
  rfl

theorem turnResidue_toRat (negative : Bool) (hu : Format.single.Holds units) :
    turnResidue (finite negative units hu).toRat =
      (signed negative units % fullTurn : ℤ) / 2 ^ Format.single.scale := by
  have hscale := two_pow_scale_pos Format.single
  have hfloor : ⌊(finite negative units hu).toRat / 360⌋ =
      signed negative units / (fullTurn : ℤ) := by
    rw [toRat, div_div, mul_comm, ← cast_fullTurn, Rat.floor_intCast_div_natCast]
  rw [turnResidue, hfloor, Int.emod_def, toRat]
  push_cast
  rw [cast_fullTurn]
  field_simp

/-- A heading that is the residue of an angle, as near as a number can be. -/
structure RoundsResidue (degrees : ℚ) (heading : Single) : Prop where
  exact : 0 ≤ degrees ∨ turnResidue degrees = 0 → heading.toRat = turnResidue degrees
  rounded : degrees < 0 → 0 < turnResidue degrees → ∃ nearest : Single,
    nearest.IsNearest (turnResidue degrees) ∧ heading = if 360 ≤ nearest.toRat then 0 else nearest
  near : ∃ turns : ℤ, |heading.toRat - degrees - 360 * turns| ≤ 1 / 2 ^ (16 : Nat)

/-! ## What wrapping does -/

theorem rem_turn (hu : Format.single.Holds units) :
    finite negative units hu % 360 =
      finite negative (units % fullTurn) (hu.mod holds_fullTurn fullTurn_pos) := by
  rw [fullTurn_eq]
  exact rem_eq_finite hu holds_fullTurn fullTurn_pos

/-- A remainder that is not negative is the heading. -/
theorem wrapHeading_of_nonneg (hu : Format.single.Holds units)
    (h : 0 ≤ signed negative (units % fullTurn)) :
    wrapHeading (finite negative units hu) =
      finite negative (units % fullTurn) (hu.mod holds_fullTurn fullTurn_pos) := by
  have hrest : units % fullTurn < fullTurn := Nat.mod_lt units fullTurn_pos
  have hnonneg : ¬ finite negative (units % fullTurn) (hu.mod holds_fullTurn fullTurn_pos) < 0 := by
    rw [lt_iff_of_places rfl (place_zero _)]
    exact Int.not_lt.2 h
  have hbelow :
      ¬ 360 ≤ finite negative (units % fullTurn) (hu.mod holds_fullTurn fullTurn_pos) := by
    rw [fullTurn_eq, le_iff_of_places rfl rfl, Int.not_le]
    cases negative <;> simp only [signed, if_true, Bool.false_eq_true, if_false] <;> omega
  unfold wrapHeading
  simp only [isFinite, if_true, rem_turn, if_neg hnonneg, if_neg hbelow]

/-- What a negative remainder leaves of a turn, rounded. -/
def wrappedRest (units : Nat) : Single := ofUnits false (fullTurn - units % fullTurn)

theorem wrapHeading_of_neg (hu : Format.single.Holds units) (h : 0 < units % fullTurn) :
    wrapHeading (finite true units hu) =
      if 360 ≤ wrappedRest units then 0 else wrappedRest units := by
  have hrest : units % fullTurn < fullTurn := Nat.mod_lt units fullTurn_pos
  have hneg : finite true (units % fullTurn) (hu.mod holds_fullTurn fullTurn_pos) < 0 := by
    rw [lt_iff_of_places rfl (place_zero _)]
    simp only [signed, if_true]
    omega
  have hsum : finite true (units % fullTurn) (hu.mod holds_fullTurn fullTurn_pos) + 360 =
      wrappedRest units := by
    rw [fullTurn_eq]
    change addFinite true (units % fullTurn) false fullTurn = _
    have hsigned : signed true (units % fullTurn) + signed false fullTurn =
        ((fullTurn - units % fullTurn : ℕ) : ℤ) := by
      simp only [signed, if_true, Bool.false_eq_true, if_false]
      omega
    have hpos : ((fullTurn - units % fullTurn : ℕ) : ℤ) ≠ 0 := by omega
    have hnonneg : ¬ ((fullTurn - units % fullTurn : ℕ) : ℤ) < 0 := by omega
    unfold addFinite
    simp only [hsigned, if_neg hpos, Int.natAbs_natCast, hnonneg, decide_false]
    rfl
  unfold wrapHeading
  simp only [isFinite, if_true, rem_turn, if_pos hneg, hsum]

theorem exists_wrappedRest (units : Nat) :
    ∃ held, wrappedRest units =
      finite false (Format.single.round (fullTurn - units % fullTurn) 1) held := by
  have hle : Format.single.round (fullTurn - units % fullTurn) 1 ≤ fullTurn :=
    Format.round_le Nat.one_pos holds_fullTurn.1 (by omega)
  have hlog := (Format.log2_le_log2 hle).trans_lt holds_fullTurn.2
  exact ⟨⟨Format.single.spacing_dvd_round _ _, hlog⟩, dif_pos hlog⟩

/-- The rest of a turn, over the rationals. -/
def restOfTurn (units : Nat) : ℚ := (fullTurn - units % fullTurn : ℕ) / 2 ^ Format.single.scale

theorem restOfTurn_nonneg (units : Nat) : 0 ≤ restOfTurn units := by
  unfold restOfTurn
  positivity

theorem restOfTurn_mul (units : Nat) :
    |restOfTurn units| * 2 ^ Format.single.scale = (fullTurn - units % fullTurn : ℕ) := by
  rw [abs_of_nonneg (restOfTurn_nonneg units), restOfTurn,
    div_mul_cancel₀ _ (two_pow_scale_pos _).ne']

theorem isNearest_wrappedRest (units : Nat) :
    (wrappedRest units).IsNearest (restOfTurn units) := by
  obtain ⟨held, heq⟩ := exists_wrappedRest units
  rw [heq]
  refine isNearest_finite (by decide) Nat.one_pos held ?_ (restOfTurn_nonneg units)
  rw [restOfTurn_mul, Nat.cast_one, div_one]

/-- Up to a full turn, rounding moves by no more than half of the last gap below it. -/
theorem abs_wrappedRest_sub_le (units : Nat) :
    |(wrappedRest units).toRat - restOfTurn units| ≤ 1 / 2 ^ (16 : Nat) := by
  obtain ⟨held, heq⟩ := exists_wrappedRest units
  have hscale := two_pow_scale_pos Format.single
  have hmoved := (Format.single.round_near (fullTurn - units % fullTurn) Nat.one_pos).1
  have hspacing : Format.single.spacing ((fullTurn - units % fullTurn) / 1) ≤ 2 ^ (134 : Nat) := by
    rw [Nat.div_one]
    refine (Nat.le_of_dvd (Format.single.spacing_pos _)
      (Format.spacing_dvd_spacing (Nat.sub_le _ _))).trans_eq ?_
    decide
  have hspacing' : (Format.single.spacing ((fullTurn - units % fullTurn) / 1) : ℚ) ≤
      2 ^ (134 : Nat) := by exact_mod_cast hspacing
  have hunit : (1 / 2 ^ (16 : Nat) : ℚ) * 2 ^ Format.single.scale = 2 ^ (134 : Nat) / 2 := by
    change (1 / 2 ^ (16 : Nat) : ℚ) * 2 ^ (149 : Nat) = 2 ^ (134 : Nat) / 2
    norm_num
  rw [Nat.cast_one, div_one] at hmoved
  refine le_of_mul_le_mul_right ?_ hscale
  have hsign : Agrees false (restOfTurn units) := restOfTurn_nonneg units
  rw [heq, abs_toRat_sub_eq held hsign, restOfTurn_mul, hunit]
  exact hmoved.trans (by linarith)

/-! ## Headings -/

theorem turnResidue_of_nonneg (hu : Format.single.Holds units)
    (h : 0 ≤ signed negative (units % fullTurn)) :
    turnResidue (finite negative units hu).toRat =
      (finite negative (units % fullTurn) (hu.mod holds_fullTurn fullTurn_pos)).toRat := by
  have hrest : (signed negative units % fullTurn : ℤ) = signed negative (units % fullTurn) := by
    cases negative with
    | false => simp [signed]
    | true =>
        have hzero : units % fullTurn = 0 := by
          simp only [signed, if_true] at h
          omega
        have hdvd : (fullTurn : ℤ) ∣ units := by exact_mod_cast Nat.dvd_of_mod_eq_zero hzero
        rw [signed, if_pos rfl, Int.neg_emod, if_pos hdvd, hzero]
        rfl
  rw [turnResidue_toRat, hrest, toRat]

theorem turnResidue_of_neg (hu : Format.single.Holds units) (h : 0 < units % fullTurn) :
    turnResidue (finite true units hu).toRat = restOfTurn units := by
  have hlt : units % fullTurn < fullTurn := Nat.mod_lt units fullTurn_pos
  have hrest : (signed true units % fullTurn : ℤ) = (fullTurn - units % fullTurn : ℕ) := by
    have hdvd : ¬ (fullTurn : ℤ) ∣ units := by
      rw [Int.natCast_dvd_natCast, Nat.dvd_iff_mod_eq_zero]
      exact h.ne'
    rw [signed, if_pos rfl, Int.neg_emod, if_neg hdvd, Int.natAbs_natCast, Nat.cast_sub hlt.le,
      Int.natCast_emod]
  rw [turnResidue_toRat, hrest, restOfTurn, Int.cast_natCast]

theorem restOfTurn_pos (units : Nat) : 0 < restOfTurn units := by
  have hlt : units % fullTurn < fullTurn := Nat.mod_lt units fullTurn_pos
  have hpos : (0 : ℚ) < (fullTurn - units % fullTurn : ℕ) := by
    exact_mod_cast Nat.sub_pos_of_lt hlt
  exact div_pos hpos (two_pow_scale_pos _)

theorem restOfTurn_le (units : Nat) : restOfTurn units ≤ 360 := by
  have hle : ((fullTurn - units % fullTurn : ℕ) : ℚ) ≤ fullTurn := by
    exact_mod_cast Nat.sub_le _ _
  rw [restOfTurn, div_le_iff₀ (two_pow_scale_pos _)]
  rwa [cast_fullTurn] at hle

theorem toRat_sub_turns (degrees heading : ℚ) (turns : ℤ) :
    heading - degrees - 360 * (turns - ⌊degrees / 360⌋ : ℤ) =
      heading - turnResidue degrees - 360 * turns := by
  rw [turnResidue]
  push_cast
  ring

theorem wrapHeading_eq_self {degrees : Single} (h₀ : 0 ≤ degrees) (h₁ : degrees < 360) :
    wrapHeading degrees = degrees := by
  rw [fullTurn_eq] at h₁
  obtain ⟨negative, units, hu, rfl, -⟩ := (within_of_nonneg_of_lt h₀ h₁).exists_finite
  rw [le_iff_of_places (place_zero _) rfl] at h₀
  rw [lt_iff_of_places rfl rfl] at h₁
  have hlt : units < fullTurn := by
    have hpos := fullTurn_pos
    cases negative <;> simp only [signed, if_true, Bool.false_eq_true, if_false] at h₀ h₁ <;> omega
  have hmod : units % fullTurn = units := Nat.mod_eq_of_lt hlt
  rw [wrapHeading_of_nonneg hu (by rwa [hmod])]
  congr 1

theorem roundsResidue_of_nonneg (hu : Format.single.Holds units)
    (h : 0 ≤ signed negative (units % fullTurn)) :
    RoundsResidue (finite negative units hu).toRat (wrapHeading (finite negative units hu)) := by
  have hresidue := turnResidue_of_nonneg hu h
  rw [wrapHeading_of_nonneg hu h]
  refine ⟨fun _ => hresidue.symm, fun hneg hpos => ?_, ?_⟩
  · cases negative with
    | false =>
        have hnonneg := div_nonneg (Int.cast_nonneg (Int.natCast_nonneg units) : (0 : ℚ) ≤ _)
          (two_pow_scale_pos Format.single).le
        exact absurd hneg (not_lt.2 hnonneg)
    | true =>
        have hzero : units % fullTurn = 0 := by
          simp only [signed, if_true] at h
          omega
        rw [hresidue, toRat_eq_zero_iff.2 hzero] at hpos
        exact absurd hpos (lt_irrefl 0)
  · refine ⟨0 - ⌊(finite negative units hu).toRat / 360⌋, ?_⟩
    rw [toRat_sub_turns, hresidue]
    simp

theorem toRat_fullTurn : (360 : Single).toRat = 360 := by
  have hscale := two_pow_scale_pos Format.single
  rw [fullTurn_eq, toRat, signed, if_neg Bool.false_ne_true, Int.cast_natCast, cast_fullTurn,
    mul_div_cancel_right₀ _ hscale.ne']

theorem roundsResidue_of_neg (hu : Format.single.Holds units) (h : 0 < units % fullTurn) :
    RoundsResidue (finite true units hu).toRat (wrapHeading (finite true units hu)) := by
  have hresidue := turnResidue_of_neg hu h
  have hpos := restOfTurn_pos units
  have hnearest := isNearest_wrappedRest units
  have hreached : 360 ≤ wrappedRest units ↔ 360 ≤ (wrappedRest units).toRat := by
    rw [le_iff_toRat_le rfl hnearest.isFinite, toRat_fullTurn]
  rw [wrapHeading_of_neg hu h]
  refine ⟨fun hexact => ?_, fun _ _ => ⟨wrappedRest units, ?_, ?_⟩, ?_⟩
  · have hneg : (finite true units hu).toRat < 0 := by
      have hunits : (0 : ℚ) < units := by
        exact_mod_cast h.trans_le (Nat.mod_le units fullTurn)
      rw [toRat, signed, if_pos rfl]
      push_cast
      exact div_neg_of_neg_of_pos (neg_lt_zero.2 hunits) (two_pow_scale_pos _)
    rcases hexact with hnonneg | hzero
    · exact absurd hneg (not_lt.2 hnonneg)
    · exact absurd (hresidue.symm.trans hzero) hpos.ne'
  · rwa [hresidue]
  · simp only [hreached]
  · have hmoved := abs_wrappedRest_sub_le units
    split
    · rename_i hturn
      refine ⟨-1 - ⌊(finite true units hu).toRat / 360⌋, ?_⟩
      have hle := restOfTurn_le units
      have hreach := hreached.1 hturn
      rw [abs_of_nonneg (by linarith)] at hmoved
      rw [toRat_sub_turns, hresidue, toRat_zero, abs_of_nonneg (by push_cast; linarith)]
      push_cast
      linarith
    · refine ⟨0 - ⌊(finite true units hu).toRat / 360⌋, ?_⟩
      rw [toRat_sub_turns, hresidue]
      simpa using hmoved

theorem roundsResidue_wrapHeading {degrees : Single} (hfinite : degrees.isFinite = true) :
    RoundsResidue degrees.toRat (wrapHeading degrees) := by
  obtain ⟨negative, units, hu, rfl⟩ := exists_finite_of_isFinite hfinite
  by_cases hneg : negative = true ∧ 0 < units % fullTurn
  · obtain ⟨rfl, h⟩ := hneg
    exact roundsResidue_of_neg hu h
  · refine roundsResidue_of_nonneg hu ?_
    cases negative with
    | false => exact Int.natCast_nonneg _
    | true =>
        have hzero : units % fullTurn = 0 := Nat.eq_zero_of_not_pos fun h => hneg ⟨rfl, h⟩
        rw [hzero]
        decide

/-- Wrapping an angle rounds its residue. The heading is one of a full turn, it stays as it is when
wrapped again, and so does any angle that is one already. -/
theorem wrapHeading_rounds_residue (degrees : Single) :
    (0 ≤ wrapHeading degrees ∧ wrapHeading degrees < 360) ∧
      (degrees.isFinite = true → RoundsResidue degrees.toRat (wrapHeading degrees)) ∧
      (degrees.isFinite = false → wrapHeading degrees = 0) ∧
      (0 ≤ degrees → degrees < 360 → wrapHeading degrees = degrees) ∧
      wrapHeading (wrapHeading degrees) = wrapHeading degrees := by
  have hrange := wrapHeading_range degrees
  refine ⟨hrange, roundsResidue_wrapHeading, fun h => ?_, wrapHeading_eq_self,
    wrapHeading_eq_self hrange.1 hrange.2⟩
  rw [wrapHeading, h]
  rfl

/-- An angle so little below zero that its residue rounds to a full turn, one that leaves a residue
of a quarter turn, and one that is no angle. -/
theorem wrapHeading_rounds_residue_tiny :
    (finite true 1 (by decide) : Single).isFinite = true ∧
      RoundsResidue (finite true 1 (by decide) : Single).toRat 0 ∧
      (0 : Single) ≤ 90 ∧ (90 : Single) < 360 ∧ wrapHeading 90 = 90 ∧
      (nan : Single).isFinite = false ∧ wrapHeading nan = 0 := by
  have hheading : wrapHeading (finite true 1 (by decide)) = 0 := by decide
  have htiny := (wrapHeading_rounds_residue (finite true 1 (by decide))).2.1 rfl
  rw [hheading] at htiny
  exact ⟨rfl, htiny, by decide, by decide,
    (wrapHeading_rounds_residue 90).2.2.2.1 (by decide) (by decide), rfl,
    (wrapHeading_rounds_residue nan).2.2.1 rfl⟩

end SpriteStage
