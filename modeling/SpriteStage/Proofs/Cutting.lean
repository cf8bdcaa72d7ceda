import SpriteStage.Program.Flat
import SpriteStage.Proofs.ExactArithmetic

/-!
# Cutting a distance into moves

`Increment.cut` counts the moves of a distance with 64-bit arithmetic, where the quotient is
rounded. A quotient of two 32-bit numbers is either a whole number or far enough from each one in
the range that matters, so the rounded quotient lies above a whole number exactly if the true one
does (`lt_quotient_iff`). Product, difference and the conversions are exact.
-/

namespace SpriteStage

namespace Format

/-- Units of the 32-bit format as units of the 64-bit format. -/
def widened (units : Nat) : Nat := units * 2 ^ (double.scale - single.scale)

theorem widened_mul_two_pow (units : Nat) :
    widened units * 2 ^ single.scale = units * 2 ^ double.scale := by
  have hscale : single.scale ≤ double.scale := by decide
  rw [widened, Nat.mul_assoc, ← Nat.pow_add, Nat.sub_add_cancel hscale]

theorem widened_pos {units : Nat} (h : 0 < units) : 0 < widened units :=
  Nat.mul_pos h (Nat.two_pow_pos _)

theorem mul_widened (k units : Nat) : k * widened units = widened (k * units) :=
  (Nat.mul_assoc ..).symm

theorem widened_sub (a b : Nat) : widened a - widened b = widened (a - b) :=
  (Nat.sub_mul ..).symm

theorem widened_le_widened {a b : Nat} : widened a ≤ widened b ↔ a ≤ b :=
  Nat.mul_le_mul_right_iff (Nat.two_pow_pos _)

theorem widened_lt_widened {a b : Nat} : widened a < widened b ↔ a < b :=
  Nat.mul_lt_mul_right (Nat.two_pow_pos _)

theorem Holds.widened {units : Nat} (h : single.Holds units) :
    double.Holds (Format.widened units) := by
  obtain ⟨m, e, hm, hunits⟩ := exists_significand h.1
  have hbound : Format.widened units < 2 ^ double.ceiling := by
    calc Format.widened units
        < 2 ^ single.ceiling * 2 ^ (double.scale - single.scale) :=
          Nat.mul_lt_mul_of_pos_right h.lt_two_pow (Nat.two_pow_pos _)
      _ = 2 ^ (single.ceiling + (double.scale - single.scale)) := by rw [Nat.pow_add]
      _ < 2 ^ double.ceiling := Nat.pow_lt_pow_right (by decide) (by decide)
  have hfactor : Format.widened units = m * 2 ^ (e + (double.scale - single.scale)) := by
    rw [Format.widened, hunits, Nat.mul_assoc, ← Nat.pow_add]
  rw [hfactor] at hbound ⊢
  exact holds_of_significand (hm.le.trans (Nat.pow_le_pow_right (by decide) (by decide))) hbound

/-! ## The rounded quotient -/

variable {distance units k : Nat}

/-- The quotient of two 32-bit magnitudes, rounded to a 64-bit one. -/
def quotient (distance units : Nat) : Nat :=
  double.round (widened distance * 2 ^ double.scale) (widened units)

theorem quotient_le (hpos : 0 < units) (hheld : double.Holds (k * 2 ^ double.scale))
    (hle : distance ≤ k * units) : quotient distance units ≤ k * 2 ^ double.scale := by
  refine round_le (widened_pos hpos) hheld.1 ?_
  calc widened distance * 2 ^ double.scale
      ≤ widened (k * units) * 2 ^ double.scale :=
        Nat.mul_le_mul_right _ (widened_le_widened.2 hle)
    _ = k * 2 ^ double.scale * widened units := by
      rw [← mul_widened, Nat.mul_right_comm]

theorem le_quotient (hpos : 0 < units) (hheld : double.Holds (k * 2 ^ double.scale))
    (hle : k * units ≤ distance) : k * 2 ^ double.scale ≤ quotient distance units := by
  refine le_round (widened_pos hpos) hheld.1 ?_
  calc k * 2 ^ double.scale * widened units
      = widened (k * units) * 2 ^ double.scale := by
        rw [← mul_widened, Nat.mul_right_comm]
    _ ≤ widened distance * 2 ^ double.scale :=
        Nat.mul_le_mul_right _ (widened_le_widened.2 hle)

/-- Between two whole numbers in the range of `2 ^ 28` the spacing is far below their distance. -/
theorem spacing_quotient_le (hlt : distance < k * units) (hk : k ≤ 2 ^ 28) :
    2 ^ 25 * double.spacing (widened distance * 2 ^ double.scale / widened units) ≤
      2 ^ double.scale := by
  have hquotient : widened distance * 2 ^ double.scale / widened units <
      2 ^ (28 + double.scale) := by
    refine Nat.div_lt_of_lt_mul ?_
    calc widened distance * 2 ^ double.scale
        < widened (k * units) * 2 ^ double.scale :=
          Nat.mul_lt_mul_of_pos_right (widened_lt_widened.2 hlt) (Nat.two_pow_pos _)
      _ = widened units * (k * 2 ^ double.scale) := by rw [← mul_widened]; ring
      _ ≤ widened units * (2 ^ 28 * 2 ^ double.scale) :=
          Nat.mul_le_mul_left _ (Nat.mul_le_mul_right _ hk)
      _ = widened units * 2 ^ (28 + double.scale) := by rw [Nat.pow_add]
  have hlog : (widened distance * 2 ^ double.scale / widened units).log2 < 28 + double.scale :=
    log2_lt_of_lt_two_pow (by decide) hquotient
  have hscale : double.scale = 1074 := rfl
  have hprecision : double.precision = 53 := rfl
  rw [spacing, ← Nat.pow_add]
  exact Nat.pow_le_pow_right (by decide) (by omega)

/-- The true quotient exceeds a whole number below it by more than the rounding can take away. -/
theorem not_quotient_le (hd : single.Holds distance) (hu : single.Holds units) (hpos : 0 < units)
    (hk : 1 ≤ k) (hlt : k * units < distance)
    (hspacing : 2 ^ 25 * double.spacing (widened distance * 2 ^ double.scale / widened units) ≤
      2 ^ double.scale) : ¬ quotient distance units ≤ k * 2 ^ double.scale := by
  intro hle
  have hexcess := hd.lt_mul_excess hu hk hlt
  have herror := round_error_le double (widened distance * 2 ^ double.scale) (widened_pos hpos)
  have hrounded := Nat.mul_le_mul_right (widened units) hle
  obtain ⟨excess, rfl⟩ := Nat.exists_eq_add_of_le hlt.le
  rw [Nat.add_sub_cancel_left] at hexcess
  change units < 2 ^ 24 * excess at hexcess
  change 2 * _ ≤ 2 * (quotient (k * units + excess) units * widened units) + _ at herror
  have hone : 0 < 2 ^ double.scale := Nat.two_pow_pos _
  generalize double.spacing _ = spacing at *
  generalize 2 ^ double.scale = one at *
  generalize quotient _ units = rounded at *
  have hunit : 0 < widened 1 := widened_pos Nat.one_pos
  have hlinear (n : Nat) : widened n = n * widened 1 := by rw [mul_widened, Nat.mul_one]
  rw [hlinear units, hlinear (k * units + excess)] at *
  generalize widened 1 = unit at *
  have hgap : 2 * (excess * unit * one) ≤ units * unit * spacing := by
    have hexpand : 2 * ((k * units + excess) * unit * one) =
        2 * (k * one * (units * unit)) + 2 * (excess * unit * one) := by ring
    omega
  have hsmall : 2 ^ 25 * (units * unit * spacing) < 2 ^ 24 * (excess * unit * one) := by
    calc 2 ^ 25 * (units * unit * spacing) = units * unit * (2 ^ 25 * spacing) := by ring
      _ ≤ units * unit * one := Nat.mul_le_mul_left _ hspacing
      _ = units * (unit * one) := Nat.mul_assoc ..
      _ < 2 ^ 24 * excess * (unit * one) :=
        Nat.mul_lt_mul_of_pos_right hexcess (Nat.mul_pos hunit hone)
      _ = 2 ^ 24 * (excess * unit * one) := by ring
  omega

theorem lt_quotient_iff (hd : single.Holds distance) (hu : single.Holds units)
    (hpos : 0 < units) (hk : 1 ≤ k) (hk' : k < 2 ^ 28) :
    k * 2 ^ double.scale < quotient distance units ↔ k * units < distance := by
  have hheld {n : Nat} (hn : n ≤ 2 ^ 28) : double.Holds (n * 2 ^ double.scale) :=
    double_hasWholes.holds (hn.trans (Nat.pow_le_pow_right (by decide) (by decide)))
  constructor
  · intro hlt
    by_contra hle
    exact absurd (quotient_le hpos (hheld hk'.le) (Nat.not_lt.1 hle)) (Nat.not_le.2 hlt)
  · intro hlt
    rcases Nat.lt_or_ge distance ((k + 1) * units) with hnext | hnext
    · by_contra hle
      exact not_quotient_le hd hu hpos hk hlt (spacing_quotient_le hnext hk') (Nat.not_lt.1 hle)
    · calc k * 2 ^ double.scale < (k + 1) * 2 ^ double.scale :=
            Nat.mul_lt_mul_of_pos_right (Nat.lt_succ_self k) (Nat.two_pow_pos _)
        _ ≤ quotient distance units := le_quotient hpos (hheld hk') hnext

end Format

/-! ## The pieces -/

namespace Increment

open Format

/-- How many moves a distance takes, in units and without rounding. -/
def moveCount (i : Increment) (distance : Nat) : Nat := (distance + i.units - 1) / i.units

variable (i : Increment) {distance : Nat}

theorem moveCount_le_iff {bound : Nat} :
    i.moveCount distance ≤ bound ↔ distance ≤ bound * i.units := by
  rw [moveCount, ← Nat.lt_succ_iff, Nat.div_lt_iff_lt_mul i.units_pos, Nat.succ_mul]
  have hpos := i.units_pos
  omega

theorem lt_moveCount_iff {bound : Nat} :
    bound < i.moveCount distance ↔ bound * i.units < distance := by
  rw [← Nat.not_le, moveCount_le_iff, Nat.not_le]

theorem moveCount_pos (hpos : 0 < distance) : 0 < i.moveCount distance := by
  rw [lt_moveCount_iff, Nat.zero_mul]
  exact hpos

/-- The whole steps before the last move leave something of a distance, and no more than a step. -/
theorem whole_steps_lt (hpos : 0 < distance) :
    (i.moveCount distance - 1) * i.units < distance := by
  have hcount := i.moveCount_pos hpos
  rw [← lt_moveCount_iff]
  omega

theorem le_all_steps (hpos : 0 < distance) :
    distance ≤ (i.moveCount distance - 1 + 1) * i.units := by
  have hcount := i.moveCount_pos hpos
  rw [← moveCount_le_iff]
  omega

theorem holds_last (hd : single.Holds distance) (hpos : 0 < distance) :
    single.Holds (distance - (i.moveCount distance - 1) * i.units) :=
  hd.remainder i.held (i.whole_steps_lt hpos) (i.le_all_steps hpos)

/-! ## The steps of the computation -/

theorem convert_toSingle :
    (i.toSingle.convert : Double) = .finite false (widened i.units) i.held.widened :=
  Binary.convert_eq_of_holds _ (widened_mul_two_pow _).symm

variable {negative : Bool} {hd : single.Holds distance}

theorem abs_convert :
    ((Binary.finite negative distance hd).convert : Double).abs =
      .finite false (widened distance) hd.widened := by
  rw [Binary.convert_eq_of_holds hd.widened (widened_mul_two_pow _).symm]
  rfl

theorem convert_signum :
    ((Binary.finite negative distance hd).signum.convert : Double) =
      .finite negative (1 * 2 ^ double.scale) (double_hasWholes.holds Nat.one_le_two_pow) := by
  have hone : (1 : Single) = .finite false (1 * 2 ^ single.scale) _ :=
    Binary.one_eq_finite single_hasWholes
  have hvalue : 1 * 2 ^ single.scale * 2 ^ double.scale =
      1 * 2 ^ double.scale * 2 ^ single.scale := by ring
  cases negative with
  | false =>
      change ((1 : Single).convert : Double) = _
      rw [hone]
      exact Binary.convert_eq_of_holds _ hvalue
  | true =>
      change ((-1 : Single).convert : Double) = _
      rw [hone]
      exact Binary.convert_eq_of_holds _ hvalue

theorem convert_sign_mul {units : Nat} (hu : single.Holds units) :
    (((Binary.finite negative distance hd).signum.convert : Double) *
      .finite false (widened units) hu.widened).convert = Binary.finite negative units hu := by
  have hproduct : 1 * 2 ^ double.scale * widened units = widened units * 2 ^ double.scale := by
    ring
  rw [convert_signum, Binary.mul_eq_of_holds hu.widened hproduct, Bool.bne_false]
  exact Binary.convert_eq_of_holds hu (widened_mul_two_pow _)

theorem log2_quotient_lt (hd : single.Holds distance) :
    (quotient distance i.units).log2 < double.ceiling := by
  have hbound : 2 ^ (single.ceiling + double.scale) < 2 ^ double.ceiling :=
    Nat.pow_lt_pow_right (by decide) (by decide)
  have hpower : 1 * 2 ^ (single.ceiling + double.scale) =
      2 ^ single.ceiling * 2 ^ double.scale := by
    rw [Nat.one_mul, Nat.pow_add]
  have hheld : double.Holds (2 ^ single.ceiling * 2 ^ double.scale) := by
    rw [← hpower]
    refine holds_of_significand Nat.one_le_two_pow ?_
    rwa [Nat.one_mul]
  have hle : quotient distance i.units ≤ 2 ^ single.ceiling * 2 ^ double.scale :=
    quotient_le i.units_pos hheld (hd.lt_two_pow.le.trans (Nat.le_mul_of_pos_right _ i.units_pos))
  exact log2_lt_of_lt_two_pow double.ceiling_pos (hle.trans_lt hheld.lt_two_pow)

/-- The number of moves that the computation asks for is the exact one wherever there can be room
for so many. -/
theorem exists_needed (hd : single.Holds distance) :
    ∃ k held, (Binary.finite false (widened distance) hd.widened /
        .finite false (widened i.units) i.held.widened : Double).ceil.greater 1 =
        .finite false (k * 2 ^ double.scale) held ∧
      1 ≤ k ∧ ∀ bound, 1 ≤ bound → bound < 2 ^ 28 →
        (k ≤ bound ↔ i.moveCount distance ≤ bound) := by
  have hquotient : double.Holds (quotient distance i.units) :=
    ⟨double.spacing_dvd_round _ _, i.log2_quotient_lt hd⟩
  obtain ⟨c, hc, hceil, hbound⟩ := Binary.exists_ceil_eq double_hasWholes hquotient
  have hcount {bound : Nat} (h₁ : 1 ≤ bound) (h₂ : bound < 2 ^ 28) :
      c ≤ bound ↔ i.moveCount distance ≤ bound := by
    rw [hbound, ← Nat.not_lt, lt_quotient_iff hd i.held i.units_pos h₁ h₂, Nat.not_lt,
      moveCount_le_iff]
  rw [Binary.div_eq_finite (widened_pos i.units_pos) (i.log2_quotient_lt hd)]
  change ∃ k held,
    Binary.greater (Binary.ceil (.finite false (quotient distance i.units) _)) 1 = _ ∧ _
  rw [hceil, Binary.one_eq_finite double_hasWholes, Binary.greater_finite]
  have hscale : 0 < 2 ^ double.scale := Nat.two_pow_pos _
  split
  · -- A quotient that comes out as zero still takes one move.
    rename_i hzero
    have hc₀ : c < 1 := Nat.lt_of_mul_lt_mul_right hzero
    refine ⟨1, double_hasWholes.holds Nat.one_le_two_pow, rfl, Nat.le_refl _,
      fun bound h₁ h₂ => ?_⟩
    rw [← hcount h₁ h₂]
    omega
  · rename_i hone
    have hc₁ : 1 ≤ c := Nat.le_of_mul_le_mul_right (Nat.not_lt.1 hone) hscale
    exact ⟨c, hc, rfl, hc₁, fun bound => hcount⟩

/-- The exact number of moves, if it is in the range in which the computation finds it. -/
theorem exists_needed_of_le (hd : single.Holds distance) (hpos : 0 < distance)
    (hlt : i.moveCount distance < 2 ^ 28) :
    ∃ held, (Binary.finite false (widened distance) hd.widened /
        .finite false (widened i.units) i.held.widened : Double).ceil.greater 1 =
      .finite false (i.moveCount distance * 2 ^ double.scale) held := by
  have hcount := i.moveCount_pos hpos
  obtain ⟨k, held, hneeded, hk, hbound⟩ := i.exists_needed hd
  have hle := (hbound (i.moveCount distance) hcount hlt).2 (Nat.le_refl _)
  have hge := (hbound k hk (by omega)).1 (Nat.le_refl _)
  obtain rfl : k = i.moveCount distance := by omega
  exact ⟨held, hneeded⟩

theorem holds_whole_steps {count : Nat} (hcount : count ≤ 2 ^ 28)
    (hlt : count * i.units < distance) (hd : single.Holds distance) :
    double.Holds (widened (count * i.units)) := by
  have hbound : widened (count * i.units) < 2 ^ double.ceiling :=
    (widened_lt_widened.2 hlt).trans hd.widened.lt_two_pow
  obtain ⟨m, e, hm, hunits⟩ := exists_significand i.held.1
  have hfactor : widened (count * i.units) =
      count * m * 2 ^ (e + (double.scale - single.scale)) := by
    rw [widened, hunits, Nat.pow_add]
    ring
  rw [hfactor] at hbound ⊢
  refine holds_of_significand ?_ hbound
  calc count * m ≤ 2 ^ 28 * 2 ^ 24 := Nat.mul_le_mul hcount hm.le
    _ ≤ 2 ^ double.precision := by decide

theorem whole_steps_eq {count : Nat} (hcount : count ≤ 2 ^ 28) (hlt : count * i.units < distance)
    (hd : single.Holds distance) :
    (.ofInt count * .finite false (widened i.units) i.held.widened : Double) =
      .finite false (widened (count * i.units)) (i.holds_whole_steps hcount hlt hd) := by
  have hwholes : count ≤ 2 ^ double.precision :=
    hcount.trans (Nat.pow_le_pow_right (by decide) (by decide))
  have hproduct : count * 2 ^ double.scale * widened i.units =
      widened (count * i.units) * 2 ^ double.scale := by
    rw [← mul_widened, Nat.mul_right_comm]
  rw [Binary.ofInt_natCast double_hasWholes hwholes,
    Binary.mul_eq_of_holds (i.holds_whole_steps hcount hlt hd) hproduct]
  rfl

theorem difference_eq {count : Nat} (hcount : count ≤ 2 ^ 28) (hlt : count * i.units < distance)
    (hle : distance ≤ (count + 1) * i.units) (hd : single.Holds distance) :
    (Binary.finite false (widened distance) hd.widened : Double) -
        .ofInt count * .finite false (widened i.units) i.held.widened =
      .finite false (widened (distance - count * i.units))
        (hd.remainder i.held hlt hle).widened := by
  have hsub : widened distance - widened (count * i.units) =
      widened (distance - count * i.units) := widened_sub _ _
  rw [i.whole_steps_eq hcount hlt hd]
  exact Binary.sub_eq_of_holds _ (widened_lt_widened.2 hlt) hsub

theorem remainder_eq {count : Nat} (hcount : count ≤ 2 ^ 28) (hlt : count * i.units < distance)
    (hle : distance ≤ (count + 1) * i.units) (hd : single.Holds distance) :
    ((Binary.finite false (widened distance) hd.widened : Double) -
        .ofInt count * .finite false (widened i.units) i.held.widened).clamp 0
        (.finite false (widened i.units) i.held.widened) =
      .finite false (widened (distance - count * i.units))
        (hd.remainder i.held hlt hle).widened := by
  have hzero : (0 : Double) = .finite false (0 * 2 ^ double.scale) _ :=
    Binary.ofInt_natCast double_hasWholes (Nat.zero_le _)
  rw [i.difference_eq hcount hlt hle hd, hzero, Binary.clamp_finite]
  · rw [Nat.zero_mul]
    exact Nat.zero_le _
  · rw [Nat.add_mul, Nat.one_mul] at hle
    exact widened_le_widened.2 (by omega)

/-! ## The result -/

/-- A distance for which there is room is cut into whole steps and what they leave of it. -/
theorem cut_of_le (negative : Bool) (hd : single.Holds distance) (hpos : 0 < distance) {room : Nat}
    (hroom : room < 2 ^ 28) (hle : i.moveCount distance ≤ room) :
    i.cut (.finite negative distance hd) room =
      { wholes := i.moveCount distance - 1
        step := .finite negative i.units i.held
        last := .finite negative _ (i.holds_last hd hpos)
        fits := true } := by
  have hcount := i.moveCount_pos hpos
  obtain ⟨held, hneeded⟩ := i.exists_needed_of_le hd hpos (hle.trans_lt hroom)
  have hwhole : room ≤ 2 ^ double.precision :=
    hroom.le.trans (Nat.pow_le_pow_right (by decide) (by decide))
  have hfits : decide
      ((Binary.finite false (i.moveCount distance * 2 ^ double.scale) held : Double) ≤
        .ofInt room) = true := by
    rw [Binary.ofInt_natCast double_hasWholes hwhole, decide_eq_true_iff, Binary.finite_le_finite]
    exact Nat.mul_le_mul_right _ hle
  have htruncate :
      ((Binary.finite false (i.moveCount distance * 2 ^ double.scale) held : Double).truncate
        0 (2 ^ (64 : Nat) - 1)).toNat = i.moveCount distance := by
    rw [Binary.truncate_finite_whole (by omega), Int.toNat_natCast]
  simp only [cut, abs_convert, convert_toSingle, hneeded, hfits, if_true, htruncate,
    i.remainder_eq (by omega) (i.whole_steps_lt hpos) (i.le_all_steps hpos) hd]
  rw [convert_sign_mul i.held, convert_sign_mul (i.holds_last hd hpos)]

theorem cut_of_lt (negative : Bool) (hd : single.Holds distance) {room : Nat} (hpos : 1 ≤ room)
    (hroom : room < 2 ^ 28) (hlt : room < i.moveCount distance) :
    i.cut (.finite negative distance hd) room =
      { wholes := room - 1
        step := .finite negative i.units i.held
        last := .finite negative i.units i.held
        fits := false } := by
  obtain ⟨k, held, hneeded, hk, hbound⟩ := i.exists_needed hd
  have hlt' : room < k := by
    rw [← Nat.not_le, hbound room hpos hroom, Nat.not_le]
    exact hlt
  have hwhole : room ≤ 2 ^ double.precision :=
    hroom.le.trans (Nat.pow_le_pow_right (by decide) (by decide))
  have hfits : decide ((Binary.finite false (k * 2 ^ double.scale) held : Double) ≤
      .ofInt room) = false := by
    rw [Binary.ofInt_natCast double_hasWholes hwhole, decide_eq_false_iff_not,
      Binary.finite_le_finite, Nat.not_le]
    exact Nat.mul_lt_mul_of_pos_right hlt' (Nat.two_pow_pos _)
  simp only [cut, abs_convert, convert_toSingle, hneeded, hfits, Bool.false_eq_true, if_false]
  rw [convert_sign_mul i.held]

end Increment

end SpriteStage
