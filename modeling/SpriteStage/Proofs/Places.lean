import Mathlib.Order.Lattice
import SpriteStage.Contact.Box

/-!
# Boxes as places

Comparisons see a number only as its place on the extended line. So boxes whose sides have the same
places are in contact with the same boxes, and what two boxes share is the same whichever comes
first, except that its zeros can have other signs.
-/

namespace SpriteStage

namespace Binary

variable {φ : Format} {a b : Binary φ}

theorem isNaN_eq_true_iff : a.isNaN = true ↔ a.place = none := by
  cases a <;> simp [isNaN, place]

theorem lt_iff_place : a < b ↔ ∃ x y, a.place = some x ∧ b.place = some y ∧ x < y := by
  change a.compare? b = some .lt ↔ _
  unfold compare?
  cases a.place <;> cases b.place <;> simp [compare_lt_iff_lt]

theorem le_iff_place : a ≤ b ↔ ∃ x y, a.place = some x ∧ b.place = some y ∧ x ≤ y := by
  change a.compare? b = some .lt ∨ a.compare? b = some .eq ↔ _
  unfold compare?
  cases a.place <;> cases b.place <;> simp [compare_lt_iff_lt]
  omega

theorem equals_iff_place : a.equals b = true ↔ ∃ x, a.place = some x ∧ b.place = some x := by
  unfold equals compare?
  cases a.place <;> cases b.place <;> simp
  exact eq_comm

/-- A choice between two numbers stands where an operation on their places says, as long as it is
no NaN that is chosen without need. -/
theorem place_choice {p : Prop} [Decidable p] {op : Int → Int → Int}
    (hplaces : ∀ x y, a.place = some x → b.place = some y → (if p then y else x) = op x y)
    (hnan : b.place = none → ¬p) :
    (if a.isNaN then b else if p then b else a).place = a.place.merge op b.place := by
  cases hx : a.place with
  | none =>
      rw [if_pos (isNaN_eq_true_iff.2 hx)]
      cases b.place <;> rfl
  | some x =>
      have hnumber : ¬a.isNaN = true := by
        rw [isNaN_eq_true_iff, hx]
        exact Option.some_ne_none x
      rw [if_neg hnumber]
      cases hy : b.place with
      | none =>
          rw [if_neg (hnan hy), hx]
          rfl
      | some y =>
          change _ = some (op x y)
          rw [← hplaces x y hx hy]
          by_cases hp : p
          · rw [if_pos hp, if_pos hp, hy]
          · rw [if_neg hp, if_neg hp, hx]

theorem lt_iff_of_places {x y : Int} (hx : a.place = some x) (hy : b.place = some y) :
    a < b ↔ x < y := by
  rw [lt_iff_place, hx, hy]
  simp

theorem le_iff_of_places {x y : Int} (hx : a.place = some x) (hy : b.place = some y) :
    a ≤ b ↔ x ≤ y := by
  rw [le_iff_place, hx, hy]
  simp

theorem place_greater (a b : Binary φ) : (a.greater b).place = a.place.merge max b.place := by
  refine place_choice (fun x y hx hy => ?_) (fun hb hlt => ?_)
  · simp only [lt_iff_of_places hx hy, max_def_lt]
  · obtain ⟨_, y, -, hy, -⟩ := lt_iff_place.1 hlt
    rw [hb] at hy
    cases hy

theorem place_lesser (a b : Binary φ) : (a.lesser b).place = a.place.merge min b.place := by
  refine place_choice (fun x y hx hy => ?_) (fun hb hlt => ?_)
  · simp only [lt_iff_of_places hy hx, min_comm x y, min_def_lt]
  · obtain ⟨y, _, hy, -, -⟩ := lt_iff_place.1 hlt
    rw [hb] at hy
    cases hy

end Binary

namespace Box

/-- Equality of all four sides as numbers: the two zeros are equal, and a NaN equals nothing. -/
def equals (a b : Box) : Bool :=
  a.left.equals b.left && a.top.equals b.top && a.right.equals b.right && a.bottom.equals b.bottom

def places (b : Box) : Option Int × Option Int × Option Int × Option Int :=
  (b.left.place, b.top.place, b.right.place, b.bottom.place)

theorem places_eq_of_equals {a b : Box} (h : a.equals b = true) : a.places = b.places := by
  simp only [equals, Bool.and_eq_true, Binary.equals_iff_place] at h
  obtain ⟨⟨⟨⟨_, hl, hl'⟩, ⟨_, ht, ht'⟩⟩, ⟨_, hr, hr'⟩⟩, ⟨_, hb, hb'⟩⟩ := h
  simp [places, hl, hl', ht, ht', hr, hr', hb, hb']

theorem isOccupied_congr (mode : ContactMode) {a b : Box} (h : a.places = b.places) :
    a.isOccupied mode = b.isOccupied mode := by
  simp only [places, Prod.mk.injEq] at h
  obtain ⟨hl, ht, hr, hb⟩ := h
  cases mode <;>
    simp only [isOccupied, decide_eq_decide, Binary.le_iff_place, Binary.lt_iff_place, hl, ht, hr,
      hb]

theorem places_overlap_congr {a a' b b' : Box} (ha : a.places = a'.places)
    (hb : b.places = b'.places) : (a.overlap b).places = (a'.overlap b').places := by
  simp only [places, Prod.mk.injEq] at ha hb
  obtain ⟨hal, hat, har, hab⟩ := ha
  obtain ⟨hbl, hbt, hbr, hbb⟩ := hb
  simp only [places, overlap, Binary.place_greater, Binary.place_lesser, hal, hat, har, hab, hbl,
    hbt, hbr, hbb]

theorem places_overlap_comm (a b : Box) : (a.overlap b).places = (b.overlap a).places := by
  have hmax (x y : Option Int) : x.merge max y = y.merge max x := by
    cases x <;> cases y <;> simp [Option.merge, max_comm]
  have hmin (x y : Option Int) : x.merge min y = y.merge min x := by
    cases x <;> cases y <;> simp [Option.merge, min_comm]
  simp only [places, overlap, Binary.place_greater, Binary.place_lesser]
  rw [hmax, hmax a.top.place, hmin, hmin a.bottom.place]

/-- A box that is occupied equals every box with the same places. -/
theorem equals_of_isOccupied {mode : ContactMode} {a b : Box} (h : a.isOccupied mode = true)
    (hplaces : a.places = b.places) : a.equals b = true := by
  simp only [places, Prod.mk.injEq] at hplaces
  obtain ⟨hl, ht, hr, hb⟩ := hplaces
  have hsides : (∃ x, a.left.place = some x) ∧ (∃ x, a.top.place = some x) ∧
      (∃ x, a.right.place = some x) ∧ ∃ x, a.bottom.place = some x := by
    cases mode with
    | touch =>
        simp only [isOccupied, decide_eq_true_eq, Binary.le_iff_place] at h
        obtain ⟨⟨x, y, hx, hy, -⟩, z, w, hz, hw, -⟩ := h
        exact ⟨⟨x, hx⟩, ⟨z, hz⟩, ⟨y, hy⟩, ⟨w, hw⟩⟩
    | strict =>
        simp only [isOccupied, decide_eq_true_eq, Binary.lt_iff_place] at h
        obtain ⟨⟨x, y, hx, hy, -⟩, z, w, hz, hw, -⟩ := h
        exact ⟨⟨x, hx⟩, ⟨z, hz⟩, ⟨y, hy⟩, ⟨w, hw⟩⟩
  obtain ⟨⟨x, hx⟩, ⟨z, hz⟩, ⟨y, hy⟩, ⟨w, hw⟩⟩ := hsides
  simp only [equals, Bool.and_eq_true, Binary.equals_iff_place, ← hl, ← ht, ← hr, ← hb]
  exact ⟨⟨⟨⟨x, hx, hx⟩, ⟨z, hz, hz⟩⟩, ⟨y, hy, hy⟩⟩, ⟨w, hw, hw⟩⟩

theorem intersection?_eq_some_iff {mode : ContactMode} {a b r : Box} :
    a.intersection? mode b = some r ↔ (a.overlap b).isOccupied mode = true ∧ a.overlap b = r := by
  simp [intersection?]

/-- What two boxes share does not depend on their order, except for the signs of zeros. -/
theorem exists_intersection?_comm {mode : ContactMode} {a b r : Box}
    (h : a.intersection? mode b = some r) :
    ∃ r', b.intersection? mode a = some r' ∧ r.equals r' = true := by
  obtain ⟨hoccupied, rfl⟩ := intersection?_eq_some_iff.1 h
  have hplaces := places_overlap_comm a b
  refine ⟨b.overlap a, intersection?_eq_some_iff.2 ⟨?_, rfl⟩,
    equals_of_isOccupied hoccupied hplaces⟩
  rwa [← isOccupied_congr mode hplaces]

theorem meets_congr {a a' b b' : Box} (ha : a.places = a'.places) (hb : b.places = b'.places) :
    a.meets b = a'.meets b' := by
  have hoccupied := isOccupied_congr .touch (places_overlap_congr ha hb)
  unfold meets intersection?
  dsimp only
  rw [hoccupied]
  split <;> rfl

end Box

end SpriteStage
