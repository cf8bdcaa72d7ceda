import SpriteStage.Proofs.ArmedScripts
import SpriteStage.Proofs.MoveSplitting

/-!
# Flat programs made flat again

A block that stands in an expansion comes from a block without blocks inside and expands to itself:
what was cleaned is clean, and a piece of a move takes one move. So an expansion that is cut off
expands to itself wherever the cut is, and making a flat program flat changes nothing
(`flatten_toProgram_flatten`). No NaN is left in it that would keep it from equalling itself.
-/

namespace SpriteStage

/-! ## Equality of blocks without NaN -/

theorem Binary.equals_self_of_isFinite {φ : Format} {x : Binary φ} (h : x.isFinite = true) :
    x.equals x = true := by
  cases x with
  | finite negative units held => simp [equals, compare?, place]
  | _ => cases h

namespace Block

variable {limit : Single}

theorem equals_self_of_isClean {block : Block} (h : block.IsClean limit) :
    block.equals block = true := by
  cases block with
  | move steps =>
      rw [equals]
      exact Binary.equals_self_of_isFinite h.1
  | turn degrees =>
      rw [equals]
      exact Binary.equals_self_of_isFinite h
  | goto x y =>
      rw [equals, Binary.equals_self_of_isFinite h.1, Binary.equals_self_of_isFinite h.2]
      rfl
  | speak kind text seconds =>
      rw [equals, Binary.equals_self_of_isFinite h.1, beq_self_eq_true, beq_self_eq_true]
      rfl
  | repeated count body => exact h.elim
  | unknown kind => rw [equals, beq_self_eq_true]

theorem listEquals_self_of_isClean {blocks : List Block} (h : ∀ b ∈ blocks, b.IsClean limit) :
    listEquals blocks blocks = true := by
  induction blocks with
  | nil => rw [listEquals]
  | cons block blocks ih =>
      obtain ⟨hblock, hblocks⟩ := List.forall_mem_cons.1 h
      rw [listEquals, equals_self_of_isClean hblock, ih hblocks]
      rfl

end Block

namespace Script

variable (i : Increment) {distance : Nat} {negative : Bool} {hd : Format.single.Holds distance}

/-! ## Where the blocks of an expansion come from -/

mutual

theorem exists_atomic_of_mem_expandBlock {increment : Single} {b : Block} (block : Block)
    (hb : b ∈ expandBlock increment block) :
    ∃ source : Block, source.isAtomic = true ∧ b ∈ expandBlock increment source := by
  match block with
  | .repeated count body =>
      rw [expandBlock, List.mem_flatten] at hb
      obtain ⟨blocks, hblocks, hb⟩ := hb
      rw [(List.mem_replicate.1 hblocks).2] at hb
      exact exists_atomic_of_mem_expand body hb
  | .move steps => exact ⟨_, rfl, hb⟩
  | .turn degrees => exact ⟨_, rfl, hb⟩
  | .goto x y => exact ⟨_, rfl, hb⟩
  | .speak kind text seconds => exact ⟨_, rfl, hb⟩
  | .unknown kind => exact ⟨_, rfl, hb⟩

theorem exists_atomic_of_mem_expand {increment : Single} {b : Block} (blocks : List Block)
    (hb : b ∈ expand increment blocks) :
    ∃ source : Block, source.isAtomic = true ∧ b ∈ expandBlock increment source := by
  match blocks with
  | [] =>
      rw [expand] at hb
      cases hb
  | block :: blocks =>
      rw [expand] at hb
      rcases List.mem_append.1 hb with hb | hb
      · exact exists_atomic_of_mem_expandBlock block hb
      · exact exists_atomic_of_mem_expand blocks hb

end

/-! ## Blocks that expand to themselves -/

theorem finiteOrZero_of_isFinite {value : Single} (h : value.isFinite = true) :
    finiteOrZero value = value := by
  cases value with
  | finite negative units held => rfl
  | _ => cases h

theorem finiteOrZero_finiteOrZero (value : Single) :
    finiteOrZero (finiteOrZero value) = finiteOrZero value :=
  finiteOrZero_of_isFinite (isFinite_finiteOrZero value)

theorem secondsOrOne_secondsOrOne (seconds : Single) :
    secondsOrOne (secondsOrOne seconds) = secondsOrOne seconds := by
  obtain ⟨hfinite, hnonneg⟩ := isClean_secondsOrOne seconds
  generalize secondsOrOne seconds = cleaned at *
  cases cleaned with
  | finite negative units held => exact if_pos ⟨hfinite, Binary.zero_le_finite_iff.1 hnonneg⟩
  | _ => cases hfinite

theorem expandMove_finite (hpos : 0 < distance) :
    expandMove i.toSingle (.finite negative distance hd) =
      (i.movesOf negative hd hpos).map Block.move := by
  have hne : (Binary.finite negative distance hd).toRat ≠ 0 :=
    mt Binary.toRat_eq_zero_iff.1 hpos.ne'
  rw [expandMove, if_neg hne, Increment.movesOf, ← i.map_ofRat_moveLengths hpos, List.map_map]
  rfl

theorem movesOf_of_le (hpos : 0 < distance) (hle : distance ≤ i.units) :
    i.movesOf negative hd hpos = [.finite negative distance hd] := by
  have hone : i.moveCount distance = 1 := by
    have hbound : i.moveCount distance ≤ 1 := by
      rw [i.moveCount_le_iff, Nat.one_mul]
      exact hle
    have hcount := i.moveCount_pos hpos
    omega
  simp [Increment.movesOf, hone]

/-- A piece of a move takes one move, and that is itself. -/
theorem expandBlock_of_mem_expandMove {steps : Single} {b : Block}
    (hb : b ∈ expandMove i.toSingle (finiteOrZero steps)) : expandBlock i.toSingle b = [b] := by
  obtain ⟨negative, distance, hd, hsteps⟩ := exists_finiteOrZero_eq steps
  rw [hsteps] at hb
  rcases Nat.eq_zero_or_pos distance with hzero | hpos
  · rw [expandMove, if_pos (Binary.toRat_eq_zero_iff.2 hzero), List.mem_singleton] at hb
    rw [hb, expandBlock, Binary.zero_eq_finite]
    exact if_pos (Binary.toRat_eq_zero_iff.2 rfl)
  · rw [expandMove_finite i hpos] at hb
    obtain ⟨move, hmove, rfl⟩ := List.mem_map.1 hb
    obtain ⟨units, hu, rfl, hunits, hle⟩ := i.exists_units_of_mem_movesOf hpos hmove
    rw [expandBlock, finiteOrZero, expandMove_finite i hunits, movesOf_of_le i hunits hle]
    rfl

theorem expandBlock_of_mem_expandBlock {source b : Block} (hatomic : source.isAtomic = true)
    (hb : b ∈ expandBlock i.toSingle source) : expandBlock i.toSingle b = [b] := by
  cases source with
  | repeated count body => cases hatomic
  | move steps =>
      rw [expandBlock] at hb
      exact expandBlock_of_mem_expandMove i hb
  | turn degrees =>
      rw [expandBlock, List.mem_singleton] at hb
      rw [hb, expandBlock, finiteOrZero_finiteOrZero]
  | goto x y =>
      rw [expandBlock, List.mem_singleton] at hb
      rw [hb, expandBlock, finiteOrZero_finiteOrZero, finiteOrZero_finiteOrZero]
  | speak kind text seconds =>
      rw [expandBlock, List.mem_singleton] at hb
      rw [hb, expandBlock, secondsOrOne_secondsOrOne]
  | unknown kind =>
      rw [expandBlock, List.mem_singleton] at hb
      rw [hb, expandBlock]

theorem expand_of_forall {increment : Single} {blocks : List Block}
    (h : ∀ b ∈ blocks, expandBlock increment b = [b]) : expand increment blocks = blocks := by
  induction blocks with
  | nil => rw [expand]
  | cons block blocks ih =>
      obtain ⟨hblock, hblocks⟩ := List.forall_mem_cons.1 h
      rw [expand, hblock, ih hblocks, List.singleton_append]

/-- An expansion that is cut off expands to itself, wherever the cut is. -/
theorem expand_take_expand (blocks : List Block) (length : Nat) :
    expand i.toSingle ((expand i.toSingle blocks).take length) =
      (expand i.toSingle blocks).take length := by
  refine expand_of_forall fun b hb => ?_
  obtain ⟨source, hatomic, hsource⟩ := exists_atomic_of_mem_expand blocks (List.mem_of_mem_take hb)
  exact expandBlock_of_mem_expandBlock i hatomic hsource

end Script

namespace FlatProgram

theorem toList_flatScript (i : Increment) (blocks : List Block) :
    (flatScript i blocks).toList = (Script.expand i.toSingle blocks).take greatestLength :=
  (extends_output i blocks).blocks

/-- A flat script is not changed by being made flat, and it is not cut off again. -/
theorem flatScript_toList_flatScript (i : Increment) (blocks : List Block) :
    flatScript i (flatScript i blocks).toList = flatScript i blocks := by
  apply Array.toList_inj.1
  rw [toList_flatScript, toList_flatScript, Script.expand_take_expand, List.take_take,
    Nat.min_self]

theorem equals_self_of_isClean {limit : Single} {p : FlatProgram} (h : p.IsClean limit) :
    p.equals p = true := by
  have hscript (t : Trigger) : Block.listEquals (p.script t).toList (p.script t).toList = true :=
    Block.listEquals_self_of_isClean fun b hb => h.blocks t b (Array.mem_toList_iff.1 hb)
  have hplay := hscript .play
  have hclick := hscript .click
  dsimp only [script] at hplay hclick
  unfold equals Program.equals toProgram
  dsimp only
  rw [hplay, hclick]
  rfl

/-- Making a flat program flat with the same increment changes nothing, whatever the program that
it was made from and whatever stands for the increment: the two are the same block by block, and
they are equal as numbers go. -/
theorem flatten_toProgram_flatten (p : Program) (increment : Single) :
    let flat := p.flatten (.ofSingle increment)
    flat.toProgram.flatten (.ofSingle increment) = flat ∧
      (flat.toProgram.flatten (.ofSingle increment)).equals flat = true := by
  intro flat
  have hsame : flat.toProgram.flatten (.ofSingle increment) = flat := by
    dsimp only [flat, Program.flatten, toProgram]
    rw [flatScript_toList_flatScript, flatScript_toList_flatScript]
  refine ⟨hsame, ?_⟩
  rw [hsame]
  exact equals_self_of_isClean (p.isClean_flatten (.ofSingle increment))

end FlatProgram

end SpriteStage
