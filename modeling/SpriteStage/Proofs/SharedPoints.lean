import Mathlib.Order.Interval.Set.Basic
import Mathlib.Order.WithBot
import SpriteStage.Proofs.Places
import SpriteStage.Proofs.RationalValue

/-!
# The points that boxes share

A box stands for the points between its corners, taken from the rationals and the two infinities; in
strict mode only the rational points off its edges count. The intersection of two boxes is then that
of their sets of points, whichever way round their corners are (`Box.intersection?_exact`).
-/

namespace SpriteStage

/-! ## The extended line -/

/-- The rationals with an infinity at either end. -/
abbrev ExtendedRat := WithBot (WithTop ℚ)

def ExtendedRat.ofRat (q : ℚ) : ExtendedRat := ((q : WithTop ℚ) : ExtendedRat)

theorem ExtendedRat.ofRat_lt_ofRat {p q : ℚ} : ofRat p < ofRat q ↔ p < q :=
  WithBot.coe_lt_coe.trans WithTop.coe_lt_coe

/-- Between two points of the extended line there is a rational one. -/
theorem ExtendedRat.exists_rat_between {x y : ExtendedRat} (h : x < y) :
    ∃ q, x < ofRat q ∧ ofRat q < y := by
  obtain ⟨z, hxz, hzy⟩ := exists_between h
  obtain ⟨w, rfl⟩ := WithBot.ne_bot_iff_exists.1 (ne_bot_of_gt hxz)
  have hw : w ≠ ⊤ := by
    rintro rfl
    exact not_top_lt hzy
  obtain ⟨q, rfl⟩ := WithTop.ne_top_iff_exists.1 hw
  exact ⟨q, hxz, hzy⟩

namespace Binary

variable {φ : Format} {x y : Binary φ}

/-- A number as a point of the extended line. A NaN is none and counts as zero. -/
def value : Binary φ → ExtendedRat
  | nan => .ofRat 0
  | infinite true => ⊥
  | infinite false => ⊤
  | finite negative units held => .ofRat (finite negative units held).toRat

theorem exists_place (hx : x.isNaN = false) : ∃ m, x.place = some m :=
  Option.ne_none_iff_exists'.1 fun h => Bool.eq_false_iff.1 hx (isNaN_eq_true_iff.2 h)

theorem signed_finite_lt_ceiling {units : Nat} (h : φ.Holds units) (negative : Bool) :
    signed true (2 ^ φ.ceiling) < signed negative units ∧
      signed negative units < signed false (2 ^ φ.ceiling) := by
  have hunits := h.lt_two_pow
  cases negative <;> simp only [signed, if_true, Bool.false_eq_true, if_false] <;> omega

/-- Numbers are ordered as their values are. -/
theorem lt_iff_value_lt (hx : x.isNaN = false) (hy : y.isNaN = false) :
    x < y ↔ x.value < y.value := by
  cases x with
  | nan => cases hx
  | infinite a =>
      cases y with
      | nan => cases hy
      | infinite b =>
          rw [lt_iff_of_places rfl rfl]
          cases a <;> cases b <;> simp [value, signed]
      | finite b n hn =>
          obtain ⟨hlow, hhigh⟩ := signed_finite_lt_ceiling hn b
          rw [lt_iff_of_places rfl rfl]
          cases a with
          | true => exact iff_of_true hlow (WithBot.bot_lt_coe _)
          | false => exact iff_of_false hhigh.not_gt not_top_lt
  | finite a m hm =>
      cases y with
      | nan => cases hy
      | infinite b =>
          obtain ⟨hlow, hhigh⟩ := signed_finite_lt_ceiling hm a
          rw [lt_iff_of_places rfl rfl]
          cases b with
          | true => exact iff_of_false hlow.not_gt not_lt_bot
          | false => exact iff_of_true hhigh (WithBot.coe_lt_coe.2 (WithTop.coe_lt_top _))
      | finite b n hn =>
          rw [lt_iff_of_places rfl rfl, value, value, ExtendedRat.ofRat_lt_ofRat, toRat, toRat,
            div_lt_div_iff_of_pos_right (two_pow_scale_pos φ)]
          exact_mod_cast Iff.rfl

theorem le_iff_value_le (hx : x.isNaN = false) (hy : y.isNaN = false) :
    x ≤ y ↔ x.value ≤ y.value := by
  obtain ⟨m, hm⟩ := exists_place hx
  obtain ⟨n, hn⟩ := exists_place hy
  rw [le_iff_of_places hm hn, ← Int.not_lt, ← lt_iff_of_places hn hm, lt_iff_value_lt hy hx, not_lt]

theorem isNaN_choice (hx : x.isNaN = false) (hy : y.isNaN = false) (p : Prop) [Decidable p] :
    (if x.isNaN then y else if p then y else x).isNaN = false := by
  rw [if_neg (Bool.eq_false_iff.1 hx)]
  split <;> assumption

theorem value_greater (hx : x.isNaN = false) (hy : y.isNaN = false) :
    (x.greater y).value = x.value ⊔ y.value := by
  rw [greater, if_neg (Bool.eq_false_iff.1 hx)]
  split
  · rename_i h
    exact (sup_of_le_right ((lt_iff_value_lt hx hy).1 h).le).symm
  · rename_i h
    rw [lt_iff_value_lt hx hy, not_lt] at h
    exact (sup_of_le_left h).symm

theorem value_lesser (hx : x.isNaN = false) (hy : y.isNaN = false) :
    (x.lesser y).value = x.value ⊓ y.value := by
  rw [lesser, if_neg (Bool.eq_false_iff.1 hx)]
  split
  · rename_i h
    exact (inf_of_le_right ((lt_iff_value_lt hy hx).1 h).le).symm
  · rename_i h
    rw [lt_iff_value_lt hy hx, not_lt] at h
    exact (inf_of_le_left h).symm

end Binary

namespace Box

variable {mode : ContactMode} {a b c r : Box}

/-- No side of a box is a NaN. The corners may be either way round. -/
structure IsNumeric (b : Box) : Prop where
  left : b.left.isNaN = false
  top : b.top.isNaN = false
  right : b.right.isNaN = false
  bottom : b.bottom.isNaN = false

theorem IsNumeric.overlap (ha : a.IsNumeric) (hb : b.IsNumeric) : (a.overlap b).IsNumeric where
  left := Binary.isNaN_choice ha.left hb.left _
  top := Binary.isNaN_choice ha.top hb.top _
  right := Binary.isNaN_choice ha.right hb.right _
  bottom := Binary.isNaN_choice ha.bottom hb.bottom _

/-! ## Points -/

/-- The points of a box, those on its edges among them. -/
def points (b : Box) : Set (ExtendedRat × ExtendedRat) :=
  Set.Icc (b.left.value, b.top.value) (b.right.value, b.bottom.value)

/-- The rational points of a box that are not on its edges. -/
def inside (b : Box) : Set (ℚ × ℚ) :=
  {p | .ofRat p.1 ∈ Set.Ioo b.left.value b.right.value ∧
    .ofRat p.2 ∈ Set.Ioo b.top.value b.bottom.value}

theorem points_overlap (ha : a.IsNumeric) (hb : b.IsNumeric) :
    (a.overlap b).points = a.points ∩ b.points := by
  simp only [points, overlap, Set.Icc_inter_Icc, Prod.mk_sup_mk, Prod.mk_inf_mk,
    Binary.value_greater ha.left hb.left, Binary.value_greater ha.top hb.top,
    Binary.value_lesser ha.right hb.right, Binary.value_lesser ha.bottom hb.bottom]

theorem inside_overlap (ha : a.IsNumeric) (hb : b.IsNumeric) :
    (a.overlap b).inside = a.inside ∩ b.inside := by
  ext p
  simp only [inside, overlap, Set.mem_ofPred_eq, Set.mem_inter_iff, ← Set.Ioo_inter_Ioo,
    Binary.value_greater ha.left hb.left, Binary.value_greater ha.top hb.top,
    Binary.value_lesser ha.right hb.right, Binary.value_lesser ha.bottom hb.bottom]
  exact and_and_and_comm

theorem isOccupied_touch_iff (hb : b.IsNumeric) :
    b.isOccupied .touch = true ↔ b.points.Nonempty := by
  rw [points, Set.nonempty_Icc, isOccupied, decide_eq_true_eq, Prod.mk_le_mk,
    Binary.le_iff_value_le hb.left hb.right, Binary.le_iff_value_le hb.top hb.bottom]

theorem isOccupied_strict_iff (hb : b.IsNumeric) :
    b.isOccupied .strict = true ↔ b.inside.Nonempty := by
  rw [isOccupied, decide_eq_true_eq, Binary.lt_iff_value_lt hb.left hb.right,
    Binary.lt_iff_value_lt hb.top hb.bottom]
  constructor
  · rintro ⟨hx, hy⟩
    obtain ⟨x, hx⟩ := ExtendedRat.exists_rat_between hx
    obtain ⟨y, hy⟩ := ExtendedRat.exists_rat_between hy
    exact ⟨(x, y), hx, hy⟩
  · rintro ⟨_, hx, hy⟩
    exact ⟨hx.1.trans hx.2, hy.1.trans hy.2⟩

/-! ## Intersections -/

theorem intersection?_eq_none_iff :
    a.intersection? mode b = none ↔ ¬(a.overlap b).isOccupied mode = true := by
  simp [intersection?]

theorem isOccupied_touch_of_strict (h : b.isOccupied .strict = true) :
    b.isOccupied .touch = true := by
  simp only [isOccupied, decide_eq_true_eq] at h ⊢
  exact h.imp .inl .inl

theorem mem_points_iff (ha : a.IsNumeric) (hb : b.IsNumeric) (p : ExtendedRat × ExtendedRat) :
    p ∈ a.points ∧ p ∈ b.points ↔ ∃ r, a.intersection? .touch b = some r ∧ p ∈ r.points := by
  rw [← Set.mem_inter_iff, ← points_overlap ha hb]
  constructor
  · intro hp
    have hoccupied := (isOccupied_touch_iff (ha.overlap hb)).2 ⟨p, hp⟩
    exact ⟨a.overlap b, intersection?_eq_some_iff.2 ⟨hoccupied, rfl⟩, hp⟩
  · rintro ⟨r, hr, hp⟩
    obtain ⟨-, rfl⟩ := intersection?_eq_some_iff.1 hr
    exact hp

theorem touch_eq_none_iff (ha : a.IsNumeric) (hb : b.IsNumeric) :
    a.intersection? .touch b = none ↔ ¬∃ p, p ∈ a.points ∧ p ∈ b.points := by
  rw [intersection?_eq_none_iff, isOccupied_touch_iff (ha.overlap hb), points_overlap ha hb]
  rfl

theorem strict_eq_some_iff (ha : a.IsNumeric) (hb : b.IsNumeric) :
    a.intersection? .strict b = some r ↔
      a.intersection? .touch b = some r ∧ ∃ p, p ∈ a.inside ∧ p ∈ b.inside := by
  have hinside := isOccupied_strict_iff (ha.overlap hb)
  rw [inside_overlap ha hb] at hinside
  rw [intersection?_eq_some_iff, intersection?_eq_some_iff, hinside]
  constructor
  · rintro ⟨hp, hr⟩
    exact ⟨⟨isOccupied_touch_of_strict (hinside.2 hp), hr⟩, hp⟩
  · rintro ⟨⟨-, hr⟩, hp⟩
    exact ⟨hp, hr⟩

theorem strict_eq_none_iff (ha : a.IsNumeric) (hb : b.IsNumeric) :
    a.intersection? .strict b = none ↔ ¬∃ p, p ∈ a.inside ∧ p ∈ b.inside := by
  rw [intersection?_eq_none_iff, isOccupied_strict_iff (ha.overlap hb), inside_overlap ha hb]
  rfl

/-! ## Order and brackets -/

theorem isOccupied_of_overlap_left (ha : a.IsNumeric) (hb : b.IsNumeric)
    (h : (a.overlap b).isOccupied mode = true) : a.isOccupied mode = true := by
  cases mode with
  | touch =>
      rw [isOccupied_touch_iff (ha.overlap hb), points_overlap ha hb] at h
      exact (isOccupied_touch_iff ha).2 h.left
  | strict =>
      rw [isOccupied_strict_iff (ha.overlap hb), inside_overlap ha hb] at h
      exact (isOccupied_strict_iff ha).2 h.left

theorem isOccupied_of_overlap_right (ha : a.IsNumeric) (hb : b.IsNumeric)
    (h : (a.overlap b).isOccupied mode = true) : b.isOccupied mode = true := by
  rw [isOccupied_congr mode (places_overlap_comm a b)] at h
  exact isOccupied_of_overlap_left hb ha h

/-- What is shared with what two boxes share is shared with the rectangle between them, and if they
share nothing, that rectangle shares nothing either. -/
theorem bind_intersection?_left (ha : a.IsNumeric) (hb : b.IsNumeric) (hc : c.IsNumeric) :
    (a.intersection? mode b).bind (·.intersection? mode c) =
      (a.overlap b).intersection? mode c := by
  by_cases h : (a.overlap b).isOccupied mode = true
  · rw [intersection?_eq_some_iff.2 ⟨h, rfl⟩, Option.bind_some]
  · have hleft := intersection?_eq_none_iff.2 h
    have hright : (a.overlap b).intersection? mode c = none :=
      intersection?_eq_none_iff.2 (mt (isOccupied_of_overlap_left (ha.overlap hb) hc) h)
    rw [hleft, hright, Option.bind_none]

theorem bind_intersection?_right (ha : a.IsNumeric) (hb : b.IsNumeric) (hc : c.IsNumeric) :
    (b.intersection? mode c).bind (a.intersection? mode ·) =
      a.intersection? mode (b.overlap c) := by
  by_cases h : (b.overlap c).isOccupied mode = true
  · rw [intersection?_eq_some_iff.2 ⟨h, rfl⟩, Option.bind_some]
  · have hleft := intersection?_eq_none_iff.2 h
    have hright : a.intersection? mode (b.overlap c) = none :=
      intersection?_eq_none_iff.2 (mt (isOccupied_of_overlap_right ha (hb.overlap hc)) h)
    rw [hleft, hright, Option.bind_none]

theorem places_overlap_assoc (a b c : Box) :
    ((a.overlap b).overlap c).places = (a.overlap (b.overlap c)).places := by
  have hmax (x y z : Option Int) : (x.merge max y).merge max z = x.merge max (y.merge max z) := by
    cases x <;> cases y <;> cases z <;> simp [Option.merge, max_assoc]
  have hmin (x y z : Option Int) : (x.merge min y).merge min z = x.merge min (y.merge min z) := by
    cases x <;> cases y <;> cases z <;> simp [Option.merge, min_assoc]
  simp only [places, overlap, Binary.place_greater, Binary.place_lesser, hmax, hmin]

/-- Both boxes share nothing, or rectangles that are equal except for the signs of zeros. -/
def Alike : Option Box → Option Box → Prop := Option.Rel fun r r' => r.equals r' = true

theorem alike_of_places {a' b' : Box} (h : (a.overlap b).places = (a'.overlap b').places) :
    Alike (a.intersection? mode b) (a'.intersection? mode b') := by
  have hoccupied := isOccupied_congr mode h
  unfold intersection?
  dsimp only
  rw [← hoccupied]
  split
  · rename_i hleft
    exact .some (equals_of_isOccupied hleft h)
  · exact .none

/-- Two boxes share, in touch mode, the points that both have, and nothing if there is none. In
strict mode they share the same rectangle, but only if they also have a point in common that is on
no edge. Which box comes first makes no difference, nor do brackets between three boxes, but for
signs of zeros. -/
theorem intersection?_exact (ha : a.IsNumeric) (hb : b.IsNumeric) :
    (∀ p, p ∈ a.points ∧ p ∈ b.points ↔ ∃ r, a.intersection? .touch b = some r ∧ p ∈ r.points) ∧
      (a.intersection? .touch b = none ↔ ¬∃ p, p ∈ a.points ∧ p ∈ b.points) ∧
      (∀ r, a.intersection? .strict b = some r ↔
        a.intersection? .touch b = some r ∧ ∃ p, p ∈ a.inside ∧ p ∈ b.inside) ∧
      (a.intersection? .strict b = none ↔ ¬∃ p, p ∈ a.inside ∧ p ∈ b.inside) ∧
      (∀ mode, Alike (a.intersection? mode b) (b.intersection? mode a)) ∧
      ∀ c, c.IsNumeric → ∀ mode, Alike ((a.intersection? mode b).bind (·.intersection? mode c))
        ((b.intersection? mode c).bind (a.intersection? mode ·)) := by
  refine ⟨mem_points_iff ha hb, touch_eq_none_iff ha hb, fun r => strict_eq_some_iff ha hb,
    strict_eq_none_iff ha hb, fun mode => ?_, fun c hc mode => ?_⟩
  · exact alike_of_places (places_overlap_comm a b)
  · rw [bind_intersection?_left ha hb hc, bind_intersection?_right ha hb hc]
    exact alike_of_places (places_overlap_assoc a b c)

/-- Everything to the right of a square, which touches it along an edge. -/
def rightHalf : Box := ⟨100, .infinite true, .infinite false, .infinite false⟩

theorem intersection?_exact_touching :
    let square := Box.square 0 0 100
    square.IsNumeric ∧ rightHalf.IsNumeric ∧ (∃ p, p ∈ square.points ∧ p ∈ rightHalf.points) ∧
      (¬∃ p, p ∈ square.inside ∧ p ∈ rightHalf.inside) ∧
      square.intersection? .touch rightHalf = some ⟨100, 0, 100, 100⟩ ∧
      square.intersection? .strict rightHalf = none ∧
      Alike (square.intersection? .touch rightHalf) (rightHalf.intersection? .touch square) ∧
      Alike ((square.intersection? .touch rightHalf).bind (·.intersection? .touch square))
        ((rightHalf.intersection? .touch square).bind (square.intersection? .touch ·)) := by
  intro square
  have hsquare : square.IsNumeric := ⟨by decide, by decide, by decide, by decide⟩
  have hhalf : rightHalf.IsNumeric := ⟨rfl, rfl, rfl, rfl⟩
  have htouch : square.intersection? .touch rightHalf = some ⟨100, 0, 100, 100⟩ := by
    decide +kernel
  have hstrict : square.intersection? .strict rightHalf = none := by decide +kernel
  obtain ⟨-, hnone, -, hnone', hcomm, hassoc⟩ := intersection?_exact hsquare hhalf
  refine ⟨hsquare, hhalf, ?_, hnone'.1 hstrict, htouch, hstrict, hcomm .touch,
    hassoc square hsquare .touch⟩
  by_contra h
  rw [hnone.2 h] at htouch
  cases htouch

end Box

end SpriteStage
