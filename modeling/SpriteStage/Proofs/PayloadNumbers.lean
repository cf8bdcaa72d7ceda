import SpriteStage.Block.Editor
import SpriteStage.Proofs.NearestNumbers
import SpriteStage.Proofs.ValidJson

/-!
# Numbers of a payload

A number of a payload is held in 64 bits on its way to 32, so an integer beyond 53 bits may be
rounded twice (`Json.Number.RoundsTwice`). It becomes an infinity exactly if it is too large for 32
bits. A repeat's count is the whole part of such a number, held between two bounds.
-/

namespace SpriteStage

open Binary

/-! ## Numbers -/

theorem Format.lt_overflow {φ : Format} {k : Nat} (h : k * 2 ^ φ.scale ≤ φ.greatest) :
    (k : ℚ) < φ.overflow := by
  have hgap : (0 : ℚ) < φ.lastGap := by exact_mod_cast Nat.two_pow_pos _
  have hle : (k : ℚ) * 2 ^ φ.scale ≤ φ.greatest := by exact_mod_cast h
  rw [overflow, lt_div_iff₀ (two_pow_scale_pos φ)]
  linarith

theorem Binary.isNearest_self {φ : Format} {x : Binary φ} (hx : x.isFinite = true) :
    x.IsNearest x.toRat := by
  refine ⟨hx, fun y _ => ?_, fun y _ hne hnear => ?_⟩
  · rw [sub_self, abs_zero]
    exact abs_nonneg _
  · rw [sub_self, abs_zero, abs_eq_zero, sub_eq_zero] at hnear
    exact absurd hnear hne

theorem Binary.Rounds.isNaN {φ : Format} {q : ℚ} {x : Binary φ} (h : x.Rounds q) :
    x.isNaN = false := by
  cases h with
  | nearest _ h =>
      obtain ⟨_, _, _, rfl⟩ := exists_finite_of_isFinite h.isFinite
      rfl
  | infinite => rfl

theorem Binary.Rounds.isFinite_iff {φ : Format} {q : ℚ} {x : Binary φ} (h : x.Rounds q) :
    x.isFinite = true ↔ |q| < φ.overflow := by
  cases h with
  | nearest hbelow h => exact iff_of_true h.isFinite hbelow
  | infinite hover => exact iff_of_false Bool.false_ne_true (not_lt.2 hover)

theorem Binary.isNegative_ofRatio {φ : Format} (negative : Bool) (m n : Nat) :
    (ofRatio negative m n : Binary φ).isNegative = negative := by
  unfold ofRatio
  split <;> rfl

theorem Binary.isNegative_convert {φ ψ : Format} (x : Binary φ) :
    (x.convert : Binary ψ).isNegative = x.isNegative := by
  cases x with
  | finite negative units held => exact isNegative_ofRatio negative _ _
  | _ => rfl

namespace Json.Number

variable {n : Number} {x : Single}

/-- The value of a number. -/
def toRat : Number → ℚ
  | integer k => k
  | real x => x.toRat

def isNegative : Number → Bool
  | integer k => decide (k < 0)
  | real x => x.isNegative

/-- A number rounded to 64 bits and from there to 32. It is rounded once if 64 bits hold it, and it
keeps its sign. -/
structure RoundsTwice (n : Number) (x : Single) : Prop where
  rounds : ∃ middle : Double, middle.IsNearest n.toRat ∧ x.Rounds middle.toRat
  once : ∀ held : Double, held.isFinite = true → held.toRat = n.toRat → x.Rounds n.toRat
  sign : x.isNegative = n.isNegative

theorem abs_integer_le {k : Int} (h : (integer k).IsValid) :
    |(k : ℚ)| ≤ (2 ^ (64 : Nat) : Nat) := by
  have hk : |k| ≤ 2 ^ (64 : Nat) := by
    rw [abs_le]
    have hvalid : -2 ^ (63 : Nat) ≤ k ∧ k < 2 ^ (64 : Nat) := h
    omega
  exact_mod_cast hk

theorem isNearest_toDouble (h : n.IsValid) : n.toDouble.IsNearest n.toRat := by
  cases n with
  | integer k =>
      refine (rounds_ofInt Format.double_hasWholes (by decide) k).isNearest ?_
      exact (abs_integer_le h).trans_lt (Format.lt_overflow (by decide +kernel))
  | real x => exact isNearest_self h

theorem roundsTwice_convert (h : n.IsValid) : n.RoundsTwice n.toDouble.convert := by
  have hnearest := isNearest_toDouble h
  have hrounds : (n.toDouble.convert : Single).Rounds n.toDouble.toRat :=
    rounds_convert Format.single_hasWholes (by decide) hnearest.isFinite
  refine ⟨⟨_, hnearest, hrounds⟩, fun held hheld heq => ?_, ?_⟩
  · have hexact := (heq ▸ hnearest).toRat_eq hheld
    rwa [hexact, heq] at hrounds
  · rw [isNegative_convert]
    cases n with
    | integer k => exact isNegative_ofRatio _ _ _
    | real x => rfl

theorem RoundsTwice.isNaN (h : n.RoundsTwice x) : x.isNaN = false := by
  obtain ⟨_, _, hrounds⟩ := h.rounds
  exact hrounds.isNaN

/-- A valid number becomes an infinity exactly if it is too large for 32 bits. -/
theorem RoundsTwice.isFinite_iff (hn : n.IsValid) (h : n.RoundsTwice x) :
    x.isFinite = true ↔ |n.toRat| < Format.single.overflow := by
  cases n with
  | integer k =>
      obtain ⟨middle, hmiddle, hrounds⟩ := h.rounds
      have hk := abs_integer_le hn
      have hbound : (2 ^ (65 : Nat) : Nat) < Format.single.overflow :=
        Format.lt_overflow (by decide +kernel)
      have hzero := hmiddle.le 0 (by rw [zero_eq_finite]; rfl)
      have hnear : |middle.toRat - k| ≤ |(k : ℚ)| := by
        rwa [toRat_zero, zero_sub, abs_neg] at hzero
      have hle : |middle.toRat| ≤ |(k : ℚ)| + |(k : ℚ)| := by
        have htriangle := abs_add_le (middle.toRat - k) k
        rw [sub_add_cancel] at htriangle
        linarith
      have hdouble : |(k : ℚ)| + |(k : ℚ)| ≤ (2 ^ (65 : Nat) : Nat) := by
        push_cast at hk ⊢
        linarith
      have habs : (0 : ℚ) ≤ |(k : ℚ)| := abs_nonneg _
      rw [hrounds.isFinite_iff]
      exact iff_of_true (by linarith) (by change |(k : ℚ)| < _; linarith)
  | real y => exact (h.once y hn rfl).isFinite_iff

end Json.Number

/-- A valid value gives a finite number of 64 bits if and only if it is a number. -/
theorem EditorBlock.finite?_eq_some_iff {value : Json} (h : value.IsValid) {x : Double} :
    finite? value = some x ↔ ∃ n : Json.Number, value = .number n ∧ n.toDouble = x := by
  cases value with
  | number n =>
      have hfinite := (Json.Number.isNearest_toDouble (Json.isValid_number_iff.1 h)).isFinite
      simp [finite?, hfinite]
  | _ => simp [finite?]

/-! ## Counts -/

/-- The whole part of a rational. -/
def towardZero (q : ℚ) : ℤ := if 0 ≤ q then ⌊q⌋ else ⌈q⌉

namespace EditorBlock

/-- The count that a number stands for: its whole part, held between two bounds. -/
inductive GivesCount : Single → Int → Prop where
  | finite {raw : Single} : raw.isFinite = true →
      GivesCount raw (max (-2 ^ (31 : Nat)) (min greatestCount (towardZero raw.toRat)))
  | infinite (negative : Bool) :
      GivesCount (infinite negative) (if negative then -2 ^ (31 : Nat) else greatestCount)

theorem towardZero_toRat (negative : Bool) {units : Nat} (h : Format.single.Holds units) :
    towardZero (finite negative units h).toRat =
      signed negative (units / 2 ^ Format.single.scale) := by
  have hfloor : ⌊(units : ℚ) / 2 ^ Format.single.scale⌋ =
      ((units / 2 ^ Format.single.scale : ℕ) : ℤ) := by
    have hdiv := Rat.floor_intCast_div_natCast (units : ℤ) (2 ^ Format.single.scale)
    push_cast at hdiv ⊢
    exact hdiv
  have hnonneg : (0 : ℚ) ≤ units / 2 ^ Format.single.scale := by positivity
  cases negative with
  | false =>
      have hvalue : (finite false units h).toRat = units / 2 ^ Format.single.scale := by
        simp [toRat, signed]
      rw [hvalue, towardZero, if_pos hnonneg, hfloor]
      rfl
  | true =>
      have hvalue : (finite true units h).toRat = -(units / 2 ^ Format.single.scale) := by
        simp [toRat, signed, neg_div]
      rw [hvalue, towardZero]
      split
      · rename_i hle
        have hzero : (units : ℚ) / 2 ^ Format.single.scale = 0 := by linarith
        rw [hzero, Int.floor_zero] at hfloor
        rw [hzero, neg_zero, Int.floor_zero, signed, if_pos rfl, ← hfloor, neg_zero]
      · rw [Int.ceil_neg, hfloor]
        rfl

theorem isLargeCount_finite (negative : Bool) {units : Nat} (h : Format.single.Holds units) :
    isLargeCount (finite negative units h) = true ↔
      10000 * 2 ^ Format.single.scale < signed negative units := by
  have hbound : Format.single.Holds (10000 * 2 ^ Format.single.scale) :=
    Format.single_hasWholes.holds (by decide)
  have heq : (ofInt greatestCount : Single) = finite false _ hbound :=
    ofInt_natCast Format.single_hasWholes (by decide)
  rw [isLargeCount, decide_eq_true_iff, heq, lt_iff_of_places rfl rfl]
  exact Iff.rfl

theorem le_whole_of_lt {negative : Bool} {units : Nat}
    (h : 10000 * 2 ^ Format.single.scale < signed negative units) :
    10000 ≤ signed negative (units / 2 ^ Format.single.scale) := by
  cases negative with
  | false =>
      have hunits : ((10000 * 2 ^ Format.single.scale : ℕ) : ℤ) < units := by
        rwa [Nat.cast_mul, Nat.cast_pow]
      exact Int.ofNat_le.2
        ((Nat.le_div_iff_mul_le (Nat.two_pow_pos _)).2 (Int.ofNat_lt.1 hunits).le)
  | true =>
      have hpos : (0 : ℤ) < 10000 * 2 ^ Format.single.scale := by positivity
      have hneg : signed true units ≤ 0 := Int.neg_nonpos_of_nonneg (Int.natCast_nonneg _)
      omega

theorem whole_le_of_not_lt {negative : Bool} {units : Nat}
    (h : ¬ 10000 * 2 ^ Format.single.scale < signed negative units) :
    signed negative (units / 2 ^ Format.single.scale) ≤ 10000 := by
  cases negative with
  | false =>
      have hunits : (units : ℤ) ≤ (2 ^ Format.single.scale * 10000 : ℕ) := by
        rw [Nat.cast_mul, Nat.cast_pow, Int.mul_comm]
        exact not_lt.1 h
      exact Int.ofNat_le.2 (Nat.div_le_of_le_mul (Int.ofNat_le.1 hunits))
  | true =>
      have hneg : signed true (units / 2 ^ Format.single.scale) ≤ 0 :=
        Int.neg_nonpos_of_nonneg (Int.natCast_nonneg _)
      omega

theorem givesCount {raw : Single} (hraw : raw.isNaN = false) : GivesCount raw (count raw) := by
  cases raw with
  | nan => cases hraw
  | infinite negative =>
      have hcount : count (infinite negative) =
          if negative then -2 ^ (31 : Nat) else greatestCount := by
        cases negative <;> decide +kernel
      rw [hcount]
      exact .infinite negative
  | finite negative units h =>
      have hcount : count (finite negative units h) = max (-2 ^ (31 : Nat))
          (min greatestCount (signed negative (units / 2 ^ Format.single.scale))) := by
        have hlarge := isLargeCount_finite negative h
        rw [count, greatestCount]
        split
        · rename_i habove
          have hle := le_whole_of_lt (hlarge.1 habove)
          omega
        · rename_i hbelow
          have hle := whole_le_of_not_lt (mt hlarge.2 hbelow)
          rw [truncate]
          omega
      rw [hcount, ← towardZero_toRat negative h]
      exact .finite rfl

end EditorBlock

end SpriteStage
