import SpriteStage.Proofs.RationalValue

/-!
# A distance and its moves

What appending the moves of a distance to a flat script does, said over the rationals. As long as
there is room, the moves carry the distance in its direction, a whole increment at a time and the
rest at last, with nothing lost; without it they are whole increments up to the last place. The
numbers on the way are computed with 64 bits, and of these only the quotient is ever rounded.
-/

namespace SpriteStage

namespace Binary

variable {φ : Format} {units : Nat}

theorem toRat_finite_false (h : φ.Holds units) :
    (finite false units h).toRat = units / 2 ^ φ.scale := by
  simp [toRat, signed]

end Binary

namespace Increment

open Format

variable (i : Increment) {distance units : Nat} {negative : Bool} {hd : single.Holds distance}

/-- How many moves the increment asks for. -/
def splitCount (steps : Single) : Nat := ⌈|steps.toRat| / i.toSingle.toRat⌉₊

/-- A move of a whole increment in the direction of a distance. -/
def wholeMove (steps : Single) : Single := if steps.isNegative then -i.toSingle else i.toSingle

/-- The moves of a distance for which there is room: whole increments, and what they leave. -/
def movesOf (negative : Bool) (hd : single.Holds distance) (hpos : 0 < distance) : List Single :=
  List.replicate (i.moveCount distance - 1) (.finite negative i.units i.held) ++
    [.finite negative _ (i.holds_last hd hpos)]

/-- Moves into which a distance is split without loss. -/
structure Splits (steps : Single) (moves : List Single) : Prop where
  length : moves.length = i.splitCount steps
  wholes : moves.dropLast = List.replicate (i.splitCount steps - 1) (i.wholeMove steps)
  isFinite : ∀ move ∈ moves, move.isFinite = true
  direction : ∀ move ∈ moves, move.isNegative = steps.isNegative
  ne_zero : ∀ move ∈ moves, move.toRat ≠ 0
  le_increment : ∀ move ∈ moves, |move.toRat| ≤ i.toSingle.toRat
  sum : (moves.map (·.toRat)).sum = steps.toRat

/-- The computation of the moves with 64 bits arrives at the exact number of moves, and no rounding
takes part in what the whole moves leave for the last one, narrowed to 32 bits at the end. -/
structure IsExact (steps : Single) : Prop where
  ceiling : ((steps.convert.abs / i.toSingle.convert : Double).ceil.greater 1).toRat =
    i.splitCount steps
  product : (.ofInt ↑(i.splitCount steps - 1) * i.toSingle.convert : Double).toRat =
    (i.splitCount steps - 1 : ℕ) * i.toSingle.toRat
  difference : (steps.convert.abs -
      .ofInt ↑(i.splitCount steps - 1) * i.toSingle.convert : Double).toRat =
    |steps.toRat| - (i.splitCount steps - 1 : ℕ) * i.toSingle.toRat
  narrowed : ((steps.convert.abs -
      .ofInt ↑(i.splitCount steps - 1) * i.toSingle.convert : Double).convert : Single).toRat =
    |steps.toRat| - (i.splitCount steps - 1 : ℕ) * i.toSingle.toRat

/-! ## The moves -/

theorem wholeMove_finite :
    i.wholeMove (.finite negative distance hd) = .finite negative i.units i.held := by
  cases negative <;> rfl

theorem splitCount_finite :
    i.splitCount (.finite negative distance hd) = i.moveCount distance :=
  i.ceil_div_eq_moveCount

theorem toRat_finite_eq_direction_mul (hu : single.Holds units) :
    (Binary.finite negative units hu).toRat = direction negative * (units / 2 ^ single.scale) := by
  cases negative <;> simp [Binary.toRat, signed, direction, neg_div]

theorem length_movesOf (hpos : 0 < distance) :
    (i.movesOf negative hd hpos).length = i.moveCount distance := by
  have hcount := i.moveCount_pos hpos
  rw [movesOf, List.length_append, List.length_replicate, List.length_singleton]
  omega

/-- Every move has a length, and none is longer than the increment. -/
theorem exists_units_of_mem_movesOf (hpos : 0 < distance) {move : Single}
    (hmem : move ∈ i.movesOf negative hd hpos) :
    ∃ units, ∃ hu : single.Holds units,
      move = .finite negative units hu ∧ 0 < units ∧ units ≤ i.units := by
  have hwhole := i.whole_steps_lt hpos
  have hall := i.le_all_steps hpos
  rw [Nat.add_mul, Nat.one_mul] at hall
  rcases List.mem_append.1 hmem with hmem | hmem
  · obtain rfl := List.eq_of_mem_replicate hmem
    exact ⟨i.units, i.held, rfl, i.units_pos, Nat.le_refl _⟩
  · obtain rfl := List.mem_singleton.1 hmem
    exact ⟨_, i.holds_last hd hpos, rfl, Nat.sub_pos_of_lt hwhole, by omega⟩

/-- The whole moves and what they leave add up to the distance. -/
theorem sum_toRat_movesOf (hpos : 0 < distance) :
    ((i.movesOf negative hd hpos).map (·.toRat)).sum =
      (Binary.finite negative distance hd).toRat := by
  have hlast := (i.whole_steps_lt hpos).le
  rw [movesOf, List.map_append, List.map_replicate, List.map_singleton, List.sum_append,
    List.sum_replicate, List.sum_singleton, nsmul_eq_mul, toRat_finite_eq_direction_mul,
    toRat_finite_eq_direction_mul, toRat_finite_eq_direction_mul, Nat.cast_sub hlast, Nat.cast_mul]
  ring

theorem splits_movesOf (hpos : 0 < distance) :
    i.Splits (.finite negative distance hd) (i.movesOf negative hd hpos) := by
  refine ⟨?_, ?_, ?_, ?_, ?_, ?_, i.sum_toRat_movesOf hpos⟩
  · rw [splitCount_finite, length_movesOf]
  · rw [splitCount_finite, wholeMove_finite, movesOf, List.dropLast_concat]
  · intro move hmem
    obtain ⟨_, _, rfl, -, -⟩ := i.exists_units_of_mem_movesOf hpos hmem
    rfl
  · intro move hmem
    obtain ⟨_, _, rfl, -, -⟩ := i.exists_units_of_mem_movesOf hpos hmem
    rfl
  · intro move hmem
    obtain ⟨_, _, rfl, hunits, -⟩ := i.exists_units_of_mem_movesOf hpos hmem
    rw [ne_eq, Binary.toRat_eq_zero_iff]
    exact hunits.ne'
  · intro move hmem
    obtain ⟨_, _, rfl, -, hle⟩ := i.exists_units_of_mem_movesOf hpos hmem
    rw [Binary.abs_toRat_finite, toRat_toSingle]
    gcongr

/-! ## The computation -/

theorem isExact_of_le (hpos : 0 < distance) (hcount : i.moveCount distance < 2 ^ 28) :
    i.IsExact (.finite negative distance hd) := by
  have hrange : i.moveCount distance - 1 ≤ 2 ^ 28 := by omega
  have hlt := i.whole_steps_lt hpos
  have hle := i.le_all_steps hpos
  obtain ⟨held, hneeded⟩ := i.exists_needed_of_le hd hpos hcount
  have hwide (n : Nat) : (widened n : ℚ) / 2 ^ double.scale = n / 2 ^ single.scale := by
    have hscale := congrArg (Nat.cast (R := ℚ)) (widened_mul_two_pow n)
    rw [Nat.cast_mul, Nat.cast_mul, Nat.cast_pow, Nat.cast_pow, Nat.cast_ofNat] at hscale
    rw [div_eq_div_iff (Binary.two_pow_scale_pos _).ne' (Binary.two_pow_scale_pos _).ne']
    exact hscale
  have hdifference : ((distance - (i.moveCount distance - 1) * i.units : ℕ) : ℚ) /
        2 ^ single.scale =
      |(Binary.finite negative distance hd).toRat| -
        (i.moveCount distance - 1 : ℕ) * i.toSingle.toRat := by
    rw [Binary.abs_toRat_finite, toRat_toSingle, Nat.cast_sub hlt.le, Nat.cast_mul]
    ring
  refine ⟨?_, ?_, ?_, ?_⟩
  · rw [splitCount_finite, abs_convert, convert_toSingle, hneeded, Binary.toRat_finite_false,
      Nat.cast_mul, Nat.cast_pow, Nat.cast_ofNat]
    exact mul_div_cancel_right₀ _ (Binary.two_pow_scale_pos _).ne'
  · rw [splitCount_finite, convert_toSingle, i.whole_steps_eq hrange hlt hd,
      Binary.toRat_finite_false, hwide, toRat_toSingle, Nat.cast_mul]
    ring
  · rw [splitCount_finite, abs_convert, convert_toSingle, i.difference_eq hrange hlt hle hd,
      Binary.toRat_finite_false, hwide]
    exact hdifference
  · rw [splitCount_finite, abs_convert, convert_toSingle, i.difference_eq hrange hlt hle hd,
      Binary.convert_eq_of_holds (hd.remainder i.held hlt hle) (widened_mul_two_pow _),
      Binary.toRat_finite_false]
    exact hdifference

end Increment

namespace FlatProgram

open Format

variable {i : Increment} {steps : Single} {o : Output}

theorem pushMove_eq (i : Increment) (steps : Single) (hroom : 1 ≤ o.room) :
    o.pushMove i steps =
      { blocks := o.blocks ++ ((List.replicate (i.cut steps o.room).wholes
            (i.cut steps o.room).step ++ [(i.cut steps o.room).last]).map Block.move).toArray
        room := o.room - ((i.cut steps o.room).wholes + 1)
        complete := o.complete && (i.cut steps o.room).fits
        remarks := o.remarks } := by
  obtain ⟨blocks, room, complete, remarks⟩ := o
  cases room with
  | zero => cases hroom
  | succ room =>
      have hblocks (wholes : Nat) (step last : Single) :
          (blocks ++ Array.replicate wholes (Block.move step)).push (.move last) =
            blocks ++ ((List.replicate wholes step ++ [last]).map Block.move).toArray := by
        apply Array.toList_inj.1
        simp
      rw [Output.pushMove_succ]
      simp only [hblocks]

/-- Splitting a distance is exact. Where there is room for all of its moves, they are as many as the
increment asks for over the rationals, all in the direction of the distance, none without length and
none longer than the increment, whole increments up to the last, and together they are the distance.
Where there is not, whole increments fill what room there is, and the script is cut off. -/
theorem pushMove_splits_exactly (i : Increment) {steps : Single} (hfinite : steps.isFinite = true)
    (hne : steps.toRat ≠ 0) (o : Output) (hroom : 1 ≤ o.room) (hroom' : o.room ≤ greatestLength) :
    ∃ moves : List Single,
      o.pushMove i steps =
        { blocks := o.blocks ++ (moves.map Block.move).toArray
          room := o.room - moves.length
          complete := o.complete && decide (i.splitCount steps ≤ o.room)
          remarks := o.remarks } ∧
      (i.splitCount steps ≤ o.room → i.Splits steps moves ∧ i.IsExact steps) ∧
      (o.room < i.splitCount steps → moves = List.replicate o.room (i.wholeMove steps)) := by
  obtain ⟨negative, distance, hd, rfl⟩ := Binary.exists_finite_of_isFinite hfinite
  have hpos : 0 < distance := Nat.pos_of_ne_zero (mt Binary.toRat_eq_zero_iff.2 hne)
  have hrange : o.room < 2 ^ 28 := Nat.lt_of_le_of_lt hroom' (by decide)
  rw [pushMove_eq i _ hroom, Increment.splitCount_finite, Increment.wholeMove_finite]
  rcases Nat.lt_or_ge o.room (i.moveCount distance) with hlt | hle
  · rw [i.cut_of_lt negative hd hroom hrange hlt]
    have hfill : List.replicate (o.room - 1) (Binary.finite negative i.units i.held) ++
        [Binary.finite negative i.units i.held] =
        List.replicate o.room (Binary.finite negative i.units i.held) := by
      rw [← List.replicate_succ', Nat.sub_add_cancel hroom]
    refine ⟨List.replicate o.room (.finite negative i.units i.held), ?_, ?_, fun _ => rfl⟩
    · rw [hfill, List.length_replicate, Nat.sub_add_cancel hroom,
        decide_eq_false (Nat.not_le.2 hlt)]
    · intro hle
      exact absurd hle (Nat.not_le.2 hlt)
  · rw [i.cut_of_le negative hd hpos hrange hle]
    refine ⟨i.movesOf negative hd hpos, ?_, fun _ => ⟨i.splits_movesOf hpos, ?_⟩, ?_⟩
    · rw [i.length_movesOf hpos, decide_eq_true hle,
        Nat.sub_add_cancel (i.moveCount_pos hpos)]
      rfl
    · exact i.isExact_of_le hpos (hle.trans_lt hrange)
    · intro hlt
      exact absurd hlt (Nat.not_lt.2 hle)

/-- Eight units backwards, three at a time: two whole moves and one of two units. All of these
numbers are below the normal ones. -/
theorem pushMove_splits_exactly_subnormal :
    let i : Increment := ⟨3, by decide, by decide⟩
    let steps : Single := .finite true 8 (by decide)
    ∃ moves : List Single,
      ((Output.start 3).pushMove i steps).blocks = (moves.map Block.move).toArray ∧
        ((Output.start 3).pushMove i steps).complete = true ∧ moves.length = 3 ∧
        (moves.map (·.toRat)).sum = steps.toRat := by
  intro i steps
  have hne : steps.toRat ≠ 0 := mt Binary.toRat_eq_zero_iff.1 (by decide)
  have hcount : i.splitCount steps = 3 := by
    rw [Increment.splitCount_finite]
    decide
  have hfinite : steps.isFinite = true := rfl
  obtain ⟨moves, hpush, hfits, -⟩ :=
    pushMove_splits_exactly i hfinite hne (.start 3) (by decide) (by decide)
  have hsplits := (hfits hcount.le).1
  refine ⟨moves, ?_, ?_, hsplits.length.trans hcount, hsplits.sum⟩
  · rw [hpush]
    exact Array.empty_append
  · rw [hpush, hcount]
    rfl

end FlatProgram

end SpriteStage
