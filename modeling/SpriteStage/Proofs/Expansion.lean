import SpriteStage.Proofs.RationalValue

/-!
# Flat scripts are expansions cut off

The expansion of a script knows no limit: repeats are written out as often as they say, and moves
are cut into pieces over the rationals. A flat script is the expansion up to `greatestLength`
blocks, and it is complete exactly if the expansion is no longer than that
(`flatten_eq_take_expansion`).

Each way of adding blocks to an `Output` is described by the list that it would add if there were
room enough (`Output.Appends`). Running one after the other appends both lists, running one over and
over appends copies of its list.
-/

namespace SpriteStage

namespace Script

/-! ## Expansions -/

/-- A number, or zero in place of one that is not finite. -/
def finiteOrZero : Single → Single
  | .finite negative units held => .finite negative units held
  | _ => 0

theorem exists_finiteOrZero_eq (value : Single) :
    ∃ negative units held, finiteOrZero value = .finite negative units held := by
  cases value with
  | finite negative units held => exact ⟨negative, units, held, rfl⟩
  | _ => exact ⟨_, _, _, Binary.zero_eq_finite _⟩

/-- The seconds of a bubble, or one second in place of those that are negative or not finite. -/
def secondsOrOne (seconds : Single) : Single :=
  if seconds.isFinite = true ∧ 0 ≤ seconds.toRat then seconds else 1

/-- The increment that is in force: the given one if it is finite and positive, or else 10. -/
def usedIncrement (increment : Single) : Single :=
  if increment.isFinite = true ∧ 0 < increment.toRat then increment else 10

/-- The moves of a distance; no distance at all takes one move as well. -/
def expandMove (increment steps : Single) : List Block :=
  if steps.toRat = 0 then [.move 0]
  else (moveLengths increment.toRat steps.toRat).map fun q => .move (.ofRat q)

mutual

/-- The blocks without repeats that a block amounts to. -/
def expandBlock (increment : Single) : Block → List Block
  | .move steps => expandMove increment (finiteOrZero steps)
  | .turn degrees => [.turn (finiteOrZero degrees)]
  | .goto x y => [.goto (finiteOrZero x) (finiteOrZero y)]
  | .speak kind text seconds => [.speak kind text (secondsOrOne seconds)]
  | .repeated count body => (List.replicate (max count 1).toNat (expand increment body)).flatten
  | .unknown kind => [.unknown kind]

def expand (increment : Single) : List Block → List Block
  | [] => []
  | block :: blocks => expandBlock increment block ++ expand increment blocks

end

end Script

namespace FlatProgram

/-! ## Appending to an output -/

namespace Output

/-- An output as it is after the addition of blocks, as many as there was room for. -/
structure Extends (o o' : Output) (added : List Block) : Prop where
  blocks : o'.blocks.toList = o.blocks.toList ++ added.take o.room
  room : o'.room = o.room - added.length
  complete : o'.complete = true ↔ added.length ≤ o.room

/-- What a pass adds to every output that is complete so far. -/
def Appends (pass : Output → Output) (added : List Block) : Prop :=
  ∀ o : Output, o.complete = true → o.room ≤ greatestLength → Extends o (pass o) added

theorem appends_push (block : Block) : Appends (push block) [block] := by
  intro o hcomplete _
  obtain ⟨blocks, room, complete, remarks⟩ := o
  subst hcomplete
  cases room with
  | zero => exact ⟨by simp [push], by simp [push], by simp [push]⟩
  | succ room => exact ⟨by simp [push], by simp [push], by simp [push]⟩

theorem Appends.comp {pass remarking : Output → Output} {added : List Block}
    (h : Appends pass added)
    (hremarking : ∀ o, ∃ remarks, remarking o = { o with remarks }) :
    Appends (fun o => pass (remarking o)) added := by
  intro o hcomplete hroom
  obtain ⟨remarks, hremarks⟩ := hremarking o
  have hextends := h { o with remarks } hcomplete hroom
  dsimp only
  rw [hremarks]
  exact ⟨hextends.blocks, hextends.room, hextends.complete⟩

theorem exists_checkFinite (kind : String) (value : Single) (o : Output) :
    ∃ remarks, o.checkFinite kind value = { o with remarks } := by
  unfold checkFinite
  split
  · exact ⟨o.remarks, rfl⟩
  · exact ⟨_, rfl⟩

theorem exists_checkSeconds (seconds : Single) (o : Output) :
    ∃ remarks, o.checkSeconds seconds = { o with remarks } := by
  unfold checkSeconds
  split
  · exact ⟨o.remarks, rfl⟩
  · exact ⟨_, rfl⟩

theorem Extends.trans {o o' o'' : Output} {first second : List Block} (h₁ : Extends o o' first)
    (h₂ : Extends o' o'' second) (hfirst : first.length ≤ o.room) :
    Extends o o'' (first ++ second) := by
  refine ⟨?_, ?_, ?_⟩
  · rw [h₂.blocks, h₁.blocks, h₁.room, List.take_append, List.append_assoc]
  · rw [h₂.room, h₁.room, List.length_append]
    omega
  · rw [h₂.complete, h₁.room, List.length_append]
    omega

theorem Extends.append_of_lt {o o' : Output} {first : List Block} (second : List Block)
    (h : Extends o o' first) (hfull : o.room < first.length) : Extends o o' (first ++ second) := by
  refine ⟨?_, ?_, ?_⟩
  · rw [h.blocks, List.take_append_of_le_length hfull.le]
  · rw [h.room, List.length_append]
    omega
  · rw [h.complete, List.length_append]
    omega

theorem Appends.seq {pass next : Output → Output} {first second : List Block}
    (h₁ : Appends pass first) (h₂ : Appends next second) :
    Appends (fun o => if (pass o).complete then next (pass o) else pass o) (first ++ second) := by
  intro o hcomplete hroom
  have hpass := h₁ o hcomplete hroom
  dsimp only
  by_cases hfits : (pass o).complete = true
  · rw [if_pos hfits]
    have hroom' : (pass o).room ≤ greatestLength := by
      rw [hpass.room]
      omega
    exact hpass.trans (h₂ (pass o) hfits hroom') (hpass.complete.1 hfits)
  · rw [if_neg hfits]
    exact hpass.append_of_lt second (Nat.not_le.1 fun hle => hfits (hpass.complete.2 hle))

/-- Running a pass over and over appends what it adds as often. -/
theorem Appends.passes {pass : Output → Output} {added : List Block} (h : Appends pass added)
    (count : Nat) : Appends (passes pass count) (List.replicate count added).flatten := by
  induction count with
  | zero =>
      intro o hcomplete _
      exact ⟨by simp [Output.passes], by simp [Output.passes],
        by simpa [Output.passes] using hcomplete⟩
  | succ count ih =>
      intro o hcomplete hroom
      have hpass := h o hcomplete hroom
      rw [Output.passes, List.replicate_succ, List.flatten_cons]
      by_cases hfits : (pass o).complete = true
      · have hle := hpass.complete.1 hfits
        by_cases hempty : added = []
        · -- A pass that adds nothing would add nothing the next times either.
          subst hempty
          have hstop : (pass o).room = o.room := by simpa using hpass.room
          have hnothing : (List.replicate count ([] : List Block)).flatten = [] := by simp
          rw [hfits, hstop, hnothing]
          simpa using hpass
        · have hlength : 0 < added.length := List.length_pos_iff.2 hempty
          have hshrinks : (pass o).room < o.room := by
            rw [hpass.room]
            omega
          rw [hfits, decide_eq_true hshrinks]
          exact hpass.trans (ih (pass o) hfits (hshrinks.le.trans hroom)) hle
      · rw [Bool.not_eq_true] at hfits
        rw [hfits]
        refine hpass.append_of_lt _ (Nat.not_le.1 fun hle => ?_)
        rw [hpass.complete.2 hle] at hfits
        exact Bool.noConfusion hfits

/-! ## Moves -/

/-- The moves that are in force for a distance, as blocks. -/
def pieces (i : Increment) (negative : Bool) {distance : Nat}
    (hd : Format.single.Holds distance) (hpos : 0 < distance) : List Block :=
  List.replicate (i.moveCount distance - 1) (.move (.finite negative i.units i.held)) ++
    [.move (.finite negative _ (i.holds_last hd hpos))]

theorem length_pieces (i : Increment) (negative : Bool) {distance : Nat}
    (hd : Format.single.Holds distance) (hpos : 0 < distance) :
    (pieces i negative hd hpos).length = i.moveCount distance := by
  have hcount := i.moveCount_pos hpos
  simp only [pieces, List.length_append, List.length_replicate, List.length_singleton]
  omega

theorem appends_pushMove (i : Increment) (negative : Bool) {distance : Nat}
    (hd : Format.single.Holds distance) (hpos : 0 < distance) :
    Appends (pushMove i (.finite negative distance hd)) (pieces i negative hd hpos) := by
  intro o hcomplete hroom
  have hcount := i.moveCount_pos hpos
  have hlength := length_pieces i negative hd hpos
  obtain ⟨blocks, room, complete, remarks⟩ := o
  subst hcomplete
  cases room with
  | zero =>
      refine ⟨by simp [pushMove_zero], by simp [pushMove_zero], ?_⟩
      simp only [pushMove_zero, hlength, Bool.false_eq_true, false_iff]
      omega
  | succ room =>
      have hsmall : room + 1 < 2 ^ 28 := Nat.lt_of_le_of_lt hroom (by decide)
      rcases Nat.lt_or_ge (room + 1) (i.moveCount distance) with hlt | hle
      · -- There is room for whole steps only.
        have hcut := i.cut_of_lt negative hd (Nat.le_add_left 1 room) hsmall hlt
        refine ⟨?_, ?_, ?_⟩
        · have hwhole : room + 1 ≤ i.moveCount distance - 1 := by omega
          simp only [pushMove_succ, hcut, pieces, Nat.add_sub_cancel, Array.toList_push,
            Array.toList_append, Array.toList_replicate, List.append_assoc]
          rw [List.take_append_of_le_length (by rwa [List.length_replicate]),
            List.take_replicate, Nat.min_eq_left hwhole, List.replicate_succ']
        · simp only [pushMove_succ, hcut, hlength]
          omega
        · simp only [pushMove_succ, hcut, hlength, Bool.and_false, Bool.false_eq_true, false_iff]
          omega
      · have hcut := i.cut_of_le negative hd hpos hsmall hle
        refine ⟨?_, ?_, ?_⟩
        · simp only [pushMove_succ, hcut, Array.toList_push, Array.toList_append,
            Array.toList_replicate, List.append_assoc]
          rw [List.take_of_length_le (hlength.trans_le hle)]
          rfl
        · simp only [pushMove_succ, hcut, hlength]
          omega
        · simp only [pushMove_succ, hcut, hlength, Bool.and_true, true_iff]
          exact hle

end Output

/-! ## Flat scripts -/

open Script

theorem toSingle_standard : Increment.standard.toSingle = 10 :=
  (Binary.ofInt_natCast Format.single_hasWholes (by decide)).symm

theorem toSingle_ofSingle (increment : Single) :
    (Increment.ofSingle increment).toSingle = usedIncrement increment := by
  cases increment with
  | nan => exact toSingle_standard
  | infinite _ => exact toSingle_standard
  | finite negative units held =>
      have hvalue : 0 < (Binary.finite negative units held).toRat ↔
          negative = false ∧ 0 < units := by
        have hscale := Binary.two_pow_scale_pos Format.single
        rw [Binary.toRat, div_pos_iff_of_pos_right hscale, Int.cast_pos]
        cases negative <;> simp [signed]
      unfold usedIncrement
      by_cases hpos : 0 < (Binary.finite negative units held).toRat
      · obtain ⟨rfl, hunits⟩ := hvalue.1 hpos
        simp [Binary.isFinite, hpos, Increment.ofSingle, hunits, Increment.toSingle]
      · rw [if_neg fun h => hpos h.2, ← toSingle_standard]
        congr 1
        cases negative with
        | true => rfl
        | false => exact dif_neg fun hunits => hpos (hvalue.2 ⟨rfl, hunits⟩)

theorem finiteOr_zero (value : Single) : finiteOr 0 value = finiteOrZero value := by
  cases value <;> rfl

theorem bubbleSeconds_eq (seconds : Single) : bubbleSeconds seconds = secondsOrOne seconds := by
  cases seconds with
  | nan => rfl
  | infinite _ => rfl
  | finite negative units held =>
      simp only [bubbleSeconds, isBubbleSeconds, secondsOrOne, Binary.zero_le_finite_iff,
        decide_eq_true_eq, Block.defaultSeconds]

theorem appends_move (i : Increment) (steps : Single) :
    Output.Appends (flattenBlock i (.move steps)) (expandMove i.toSingle (finiteOrZero steps)) := by
  have hflatten : flattenBlock i (.move steps) = fun o =>
      if (finiteOrZero steps).equals 0 then (o.checkFinite "move" steps).push (.move 0)
      else (o.checkFinite "move" steps).pushMove i (finiteOrZero steps) := by
    funext o
    rw [flattenBlock, finiteOr_zero]
  rw [hflatten]
  have hremarks := Output.exists_checkFinite "move" steps
  obtain ⟨negative, distance, hd, hsteps⟩ := exists_finiteOrZero_eq steps
  rw [hsteps, expandMove]
  by_cases hzero : distance = 0
  · rw [if_pos (Binary.toRat_eq_zero_iff.2 hzero)]
    simp only [if_pos (Binary.equals_zero_iff.2 hzero)]
    exact (Output.appends_push _).comp hremarks
  · have hpos := Nat.pos_of_ne_zero hzero
    have hpieces : Output.pieces i negative hd hpos =
        (moveLengths i.toSingle.toRat (Binary.finite negative distance hd).toRat).map
          fun q => .move (.ofRat q) := by
      have hcompose : (fun q => Block.move (Binary.ofRat q)) = Block.move ∘ Binary.ofRat := rfl
      rw [hcompose, ← List.map_map, i.map_ofRat_moveLengths hpos]
      simp [Output.pieces]
    rw [if_neg fun h => hzero (Binary.toRat_eq_zero_iff.1 h), ← hpieces]
    simp only [if_neg fun h => hzero (Binary.equals_zero_iff.1 h)]
    exact (Output.appends_pushMove i negative hd hpos).comp hremarks

mutual

theorem appends_flattenBlock (i : Increment) (block : Block) :
    Output.Appends (flattenBlock i block) (expandBlock i.toSingle block) := by
  match block with
  | .move steps => exact appends_move i steps
  | .turn degrees =>
      rw [expandBlock, ← finiteOr_zero]
      exact (Output.appends_push _).comp (Output.exists_checkFinite "turn" degrees)
  | .goto x y =>
      rw [expandBlock, ← finiteOr_zero, ← finiteOr_zero]
      exact ((Output.appends_push _).comp (Output.exists_checkFinite "goto" y)).comp
        (Output.exists_checkFinite "goto" x)
  | .speak kind text seconds =>
      rw [expandBlock, ← bubbleSeconds_eq]
      exact (Output.appends_push _).comp (Output.exists_checkSeconds seconds)
  | .repeated count body =>
      exact (appends_flattenBlocks i body).passes _
  | .unknown kind => exact Output.appends_push _

theorem appends_flattenBlocks (i : Increment) (blocks : List Block) :
    Output.Appends (flattenBlocks i blocks) (expand i.toSingle blocks) := by
  match blocks with
  | [] =>
      intro o hcomplete _
      exact ⟨by simp [flattenBlocks, expand], by simp [flattenBlocks, expand],
        by simpa [flattenBlocks, expand] using hcomplete⟩
  | block :: blocks =>
      exact (appends_flattenBlock i block).seq (appends_flattenBlocks i blocks)

end

theorem extends_output (i : Increment) (blocks : List Block) :
    Output.Extends (.start greatestLength) (output i blocks) (expand i.toSingle blocks) :=
  appends_flattenBlocks i blocks (.start greatestLength) rfl (Nat.le_refl _)

/-- Making a program flat writes out the expansion of each script and cuts it off after
`greatestLength` blocks. The building of a script is incomplete exactly if the expansion is longer
than that. The moves in the expansion are the rational ones: none of them is rounded. -/
theorem flatten_eq_take_expansion (p : Program) (increment : Single) :
    (∀ t, ((p.flatten (.ofSingle increment)).script t).toList =
        (expand (usedIncrement increment) (p.script t)).take greatestLength) ∧
      (∀ blocks, (output (.ofSingle increment) blocks).complete = false ↔
        greatestLength < (expand (usedIncrement increment) blocks).length) ∧
      ∀ steps : Single, ∀ q ∈ moveLengths (usedIncrement increment).toRat steps.toRat,
        (Binary.ofRat q : Single).isFinite = true ∧ (Binary.ofRat q : Single).toRat = q := by
  rw [← toSingle_ofSingle]
  refine ⟨fun t => ?_, fun blocks => ?_, fun steps q hq => ?_⟩
  · have hscript := (extends_output (.ofSingle increment) (p.script t)).blocks
    cases t <;> exact hscript
  · rw [← Bool.not_eq_true, (extends_output (.ofSingle increment) blocks).complete, Nat.not_le]
    rfl
  · have hheld := Increment.isHeld_of_mem_moveLengths (.ofSingle increment) hq
    exact ⟨Binary.isFinite_ofRat hheld, Binary.toRat_ofRat hheld⟩

end FlatProgram

end SpriteStage
