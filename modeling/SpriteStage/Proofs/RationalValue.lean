import Mathlib.Algebra.Order.Floor.Ring
import Mathlib.Data.Rat.Floor
import Mathlib.Data.Sign.Basic
import Mathlib.Tactic.FieldSimp
import SpriteStage.Proofs.Cutting

/-!
# Distances as rationals

The value of a finite number is a rational, and each held rational is the value of the number
nearest to it. `moveLengths` cuts a rational distance into moves without any rounding; all of these
lengths are numbers of the 32-bit format, and they are the ones that `Increment.cut` returns.
-/

namespace SpriteStage

namespace Binary

variable {φ : Format} {units : Nat}

/-- The value of a finite number; the others have none and count as zero. -/
def toRat : Binary φ → ℚ
  | finite negative units _ => (signed negative units : ℚ) / 2 ^ φ.scale
  | _ => 0

/-- The number nearest to a rational. -/
def ofRat (q : ℚ) : Binary φ :=
  ofRatio (decide (q < 0)) (q.num.natAbs * 2 ^ φ.scale) q.den

theorem two_pow_scale_pos (φ : Format) : (0 : ℚ) < 2 ^ φ.scale := by positivity

theorem abs_toRat_finite (negative : Bool) (h : φ.Holds units) :
    |(finite negative units h).toRat| = units / 2 ^ φ.scale := by
  have hsigned : |(signed negative units : ℚ)| = units := by
    cases negative <;> simp [signed]
  rw [toRat, abs_div, hsigned, abs_of_pos (two_pow_scale_pos φ)]

theorem zero_eq_finite (φ : Format) :
    (0 : Binary φ) = finite false 0 ⟨Nat.dvd_zero _, φ.ceiling_pos⟩ := by
  have hzero : φ.Holds (0 * 2 ^ φ.scale) := by
    rw [Nat.zero_mul]
    exact ⟨Nat.dvd_zero _, φ.ceiling_pos⟩
  change ofUnits false (0 * 2 ^ φ.scale) = _
  rw [ofUnits_of_holds false hzero]
  simp only [Nat.zero_mul]

theorem zero_le_finite_iff {negative : Bool} {h : φ.Holds units} :
    0 ≤ finite negative units h ↔ 0 ≤ (finite negative units h).toRat := by
  have hscale := two_pow_scale_pos φ
  rw [zero_eq_finite, toRat, le_div_iff₀ hscale, zero_mul, Int.cast_nonneg_iff]
  change (some (compare (signed false 0) (signed negative units)) = some Ordering.lt ∨
    some (compare (signed false 0) (signed negative units)) = some Ordering.eq) ↔ _
  simp only [signed, Bool.false_eq_true, if_false, Option.some.injEq, compare_lt_iff_lt,
    compare_eq_iff_eq]
  omega

theorem equals_zero_iff {negative : Bool} {h : φ.Holds units} :
    (finite negative units h).equals 0 = true ↔ units = 0 := by
  rw [zero_eq_finite]
  change (some (compare (signed negative units) (signed false 0)) == some Ordering.eq) = true ↔ _
  simp only [signed, Bool.false_eq_true, if_false, beq_iff_eq, Option.some.injEq,
    compare_eq_iff_eq]
  split <;> omega

theorem toRat_eq_zero_iff {negative : Bool} {h : φ.Holds units} :
    (finite negative units h).toRat = 0 ↔ units = 0 := by
  rw [← abs_eq_zero, abs_toRat_finite, div_eq_zero_iff]
  simp

theorem ofRat_of_abs_mul {q : ℚ} (h : φ.Holds units) (hq : |q| * 2 ^ φ.scale = units) :
    ofRat q = finite (decide (q < 0)) units h := by
  have hden : (0 : ℚ) < q.den := by exact_mod_cast q.den_pos
  have habs : |q| = (q.num.natAbs : ℚ) / q.den := by
    conv_lhs => rw [← Rat.num_div_den q]
    rw [abs_div, abs_of_pos hden, Nat.cast_natAbs, Int.cast_abs]
  have hcross : q.num.natAbs * 2 ^ φ.scale = units * q.den := by
    rw [habs, div_mul_eq_mul_div, div_eq_iff hden.ne'] at hq
    exact_mod_cast hq
  rw [ofRat, hcross]
  exact ofRatio_mul_self _ q.den_pos h

/-- A rational that is the value of a number. -/
def IsHeld (φ : Format) (q : ℚ) : Prop := ∃ units, φ.Holds units ∧ |q| * 2 ^ φ.scale = (units : ℚ)

theorem isFinite_ofRat {q : ℚ} (hq : IsHeld φ q) : (ofRat q : Binary φ).isFinite = true := by
  obtain ⟨units, h, hq⟩ := hq
  rw [ofRat_of_abs_mul h hq]
  rfl

theorem toRat_ofRat {q : ℚ} (hq : IsHeld φ q) : (ofRat q : Binary φ).toRat = q := by
  obtain ⟨units, h, hq⟩ := hq
  have hscale := two_pow_scale_pos φ
  rw [ofRat_of_abs_mul h hq, toRat]
  rcases lt_or_ge q 0 with hneg | hnonneg
  · rw [abs_of_neg hneg] at hq
    simp only [hneg, decide_true, signed, if_true]
    push_cast
    rw [← hq]
    field_simp
  · rw [abs_of_nonneg hnonneg] at hq
    simp only [not_lt.2 hnonneg, decide_false, signed, Bool.false_eq_true, if_false]
    push_cast
    rw [← hq]
    field_simp

end Binary

/-- The lengths of the moves that a distance takes: whole increments as long as they leave
something, and then what they leave. -/
def moveLengths (increment distance : ℚ) : List ℚ :=
  let count := ⌈|distance| / increment⌉₊
  let direction : ℚ := SignType.sign distance
  List.replicate (count - 1) (direction * increment) ++
    [direction * (|distance| - (count - 1 : ℕ) * increment)]

namespace Increment

variable (i : Increment) {distance : Nat} {negative : Bool} {hd : Format.single.Holds distance}

theorem toRat_toSingle : i.toSingle.toRat = i.units / 2 ^ Format.single.scale := by
  simp [toSingle, Binary.toRat, signed]

theorem ceil_div_eq_moveCount :
    ⌈|(Binary.finite negative distance hd).toRat| / i.toSingle.toRat⌉₊ =
      i.moveCount distance := by
  have hscale := Binary.two_pow_scale_pos Format.single
  have hunits : (0 : ℚ) < i.units := by exact_mod_cast i.units_pos
  refine eq_of_forall_ge_iff fun bound => ?_
  rw [Nat.ceil_le, moveCount_le_iff, Binary.abs_toRat_finite, toRat_toSingle,
    div_div_div_cancel_right₀ hscale.ne', div_le_iff₀ hunits]
  exact_mod_cast Iff.rfl

def direction (negative : Bool) : ℚ := if negative then -1 else 1

theorem sign_toRat (hpos : 0 < distance) :
    ((SignType.sign (Binary.finite negative distance hd).toRat : SignType) : ℚ) =
      direction negative := by
  have hvalue : (0 : ℚ) < distance / 2 ^ Format.single.scale :=
    div_pos (by exact_mod_cast hpos) (Binary.two_pow_scale_pos _)
  cases negative with
  | false => simp [Binary.toRat, signed, direction, sign_pos hvalue]
  | true =>
      have hneg : -(distance : ℚ) / 2 ^ Format.single.scale < 0 := by
        rw [neg_div]
        exact neg_lt_zero.2 hvalue
      simp [Binary.toRat, signed, direction, sign_neg hneg]

theorem abs_direction_mul {q : ℚ} (hq : 0 ≤ q) : |direction negative * q| = q := by
  cases negative <;> simp [direction, abs_of_nonneg hq]

theorem ofRat_direction_mul {units : Nat} (hu : Format.single.Holds units) (hpos : 0 < units) :
    Binary.ofRat (direction negative * (units / 2 ^ Format.single.scale)) =
      Binary.finite negative units hu := by
  have hscale := Binary.two_pow_scale_pos Format.single
  have hvalue : (0 : ℚ) < units / 2 ^ Format.single.scale :=
    div_pos (by exact_mod_cast hpos) hscale
  have hsign : decide (direction negative * (units / 2 ^ Format.single.scale : ℚ) < 0) =
      negative := by
    cases negative
    · simp [direction, hvalue.le]
    · simp [direction, hvalue]
  rw [Binary.ofRat_of_abs_mul hu, hsign]
  rw [abs_direction_mul hvalue.le, div_mul_cancel₀ _ hscale.ne']

theorem moveLengths_toRat (hpos : 0 < distance) :
    moveLengths i.toSingle.toRat (Binary.finite negative distance hd).toRat =
      List.replicate (i.moveCount distance - 1)
          (direction negative * (i.units / 2 ^ Format.single.scale)) ++
        [direction negative *
          ((distance - (i.moveCount distance - 1) * i.units : ℕ) / 2 ^ Format.single.scale)] := by
  have hlast := (i.whole_steps_lt hpos).le
  have hlength : (distance : ℚ) / 2 ^ Format.single.scale -
      (i.moveCount distance - 1 : ℕ) * (i.units / 2 ^ Format.single.scale) =
      (distance - (i.moveCount distance - 1) * i.units : ℕ) / 2 ^ Format.single.scale := by
    rw [Nat.cast_sub hlast, Nat.cast_mul, sub_div, mul_div_assoc]
  rw [moveLengths, ceil_div_eq_moveCount, sign_toRat hpos, Binary.abs_toRat_finite,
    toRat_toSingle, hlength]

/-- The moves over the rationals are the pieces that a distance is cut into. -/
theorem map_ofRat_moveLengths (hpos : 0 < distance) :
    (moveLengths i.toSingle.toRat (Binary.finite negative distance hd).toRat).map Binary.ofRat =
      List.replicate (i.moveCount distance - 1) (Binary.finite negative i.units i.held) ++
        [Binary.finite negative _ (i.holds_last hd hpos)] := by
  have hlast := Nat.sub_pos_of_lt (i.whole_steps_lt hpos)
  rw [moveLengths_toRat i hpos, List.map_append, List.map_replicate, List.map_singleton,
    ofRat_direction_mul i.held i.units_pos, ofRat_direction_mul (i.holds_last hd hpos) hlast]

theorem isHeld_direction_mul {units : Nat} (hu : Format.single.Holds units) :
    Binary.IsHeld .single (direction negative * (units / 2 ^ Format.single.scale)) := by
  have hscale := Binary.two_pow_scale_pos Format.single
  refine ⟨units, hu, ?_⟩
  rw [abs_direction_mul (by positivity), div_mul_cancel₀ _ hscale.ne']

/-- Every move over the rationals has the value of a number. -/
theorem isHeld_of_mem_moveLengths {q : ℚ} {s : Single}
    (hq : q ∈ moveLengths i.toSingle.toRat s.toRat) : Binary.IsHeld .single q := by
  have hzero : Binary.IsHeld .single 0 := ⟨0, by decide, by simp⟩
  cases s with
  | nan =>
      have hq₀ : q = 0 := by simpa [Binary.toRat, moveLengths] using hq
      exact hq₀ ▸ hzero
  | infinite _ =>
      have hq₀ : q = 0 := by simpa [Binary.toRat, moveLengths] using hq
      exact hq₀ ▸ hzero
  | finite negative distance hd =>
      rcases Nat.eq_zero_or_pos distance with rfl | hpos
      · have hq₀ : q = 0 := by simpa [Binary.toRat, moveLengths, signed] using hq
        exact hq₀ ▸ hzero
      · rw [moveLengths_toRat i hpos, List.mem_append, List.mem_replicate,
          List.mem_singleton] at hq
        rcases hq with ⟨-, rfl⟩ | rfl
        · exact isHeld_direction_mul i.held
        · exact isHeld_direction_mul (i.holds_last hd hpos)

end Increment

end SpriteStage
