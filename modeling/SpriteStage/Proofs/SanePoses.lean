import SpriteStage.Proofs.ArmedScripts
import SpriteStage.Proofs.BoundedMagnitudes

/-!
# Poses stay sane

A pose is sane if its position is finite and its heading is one of a full turn. Whatever numbers a
program has, those of a flat script are finite and its moves are no longer than the increment. A
move along a heading changes each coordinate by no more than that, as its cosine and sine are
between -1 and 1 and nothing else of them matters (`Pose.IsSane.add_mul`). An increment below half
of the last gap between finite numbers is lost in rounding before it can lead to an infinity. So a
sprite that starts at a sane pose has one for good (`Reachable.poses_stay_sane`).
-/

namespace SpriteStage

open Binary

/-! ## Headings -/

/-- The units of a full turn. -/
def fullTurn : Nat := 360 * 2 ^ Format.single.scale

theorem holds_fullTurn : Format.single.Holds fullTurn := Format.single_hasWholes.holds (by decide)

theorem fullTurn_eq : (360 : Single) = finite false fullTurn holds_fullTurn :=
  ofInt_natCast Format.single_hasWholes (by decide)

theorem fullTurn_le_greatest : fullTurn ≤ Format.single.greatest := holds_fullTurn.le_greatest

theorem fullTurn_lt_lastGap : 2 * fullTurn < Format.single.lastGap := by decide

/-- A residue of a full turn that is negative becomes nonnegative by a turn more. -/
theorem zero_le_wrapped {residue : Single} (h : residue.Within fullTurn) :
    let wrapped := if residue < 0 then residue + 360 else residue
    wrapped.isFinite = true ∧ 0 ≤ wrapped := by
  dsimp only
  split
  · have hgap := fullTurn_lt_lastGap
    have hgreatest := fullTurn_le_greatest
    rw [fullTurn_eq]
    refine ⟨isFinite_add Format.single_hasWholes h (Nat.le_refl fullTurn) (by omega), ?_⟩
    obtain ⟨negative, units, _, rfl, hunits⟩ := h.exists_finite
    refine zero_le_addFinite ?_
    cases negative <;> simp only [signed, if_true, Bool.false_eq_true, if_false] <;> omega
  · rename_i hnonneg
    exact ⟨h.isFinite, (not_lt_iff h.isFinite rfl).1 hnonneg⟩

/-- Every angle, finite or not, stands for one of a full turn. -/
theorem wrapHeading_range (degrees : Single) :
    0 ≤ wrapHeading degrees ∧ wrapHeading degrees < 360 := by
  have hzero : (0 : Single) ≤ 0 ∧ (0 : Single) < 360 := by decide
  unfold wrapHeading
  split
  · rename_i hfinite
    have hresidue : (degrees % 360).Within fullTurn := by
      rw [fullTurn_eq]
      exact within_rem hfinite (by decide)
    have hwrapped := zero_le_wrapped hresidue
    dsimp only at hwrapped ⊢
    generalize (if degrees % 360 < 0 then degrees % 360 + 360 else degrees % 360) = wrapped
      at hwrapped ⊢
    split
    · exact hzero
    · rename_i hbelow
      rw [← not_lt_iff hwrapped.1 rfl, Classical.not_not] at hbelow
      exact ⟨hwrapped.2, hbelow⟩
  · exact hzero

namespace Trigonometry

theorem holds_one : Format.single.Holds (2 ^ Format.single.scale) := by decide

theorem within_ofFixed (negative : Bool) (value : Int) :
    (ofFixed negative value).Within (2 ^ Format.single.scale) := by
  have hone : 2 ^ Format.single.scale * 2 ^ guardBits = 2 ^ fixedBits := (Nat.pow_add ..).symm
  refine within_ofRatio holds_one (Format.round_le (Nat.two_pow_pos _) holds_one.1 ?_)
  rw [hone]
  exact Nat.min_le_right _ _

theorem within_cosine {angle : Single} (h : angle.isFinite = true) :
    (cosine angle).Within (2 ^ Format.single.scale) := by
  obtain ⟨_, _, _, rfl⟩ := exists_finite_of_isFinite h
  exact within_ofFixed _ _

theorem within_sine {angle : Single} (h : angle.isFinite = true) :
    (sine angle).Within (2 ^ Format.single.scale) := by
  obtain ⟨_, _, _, rfl⟩ := exists_finite_of_isFinite h
  exact within_ofFixed _ _

end Trigonometry

/-! ## Poses -/

/-- An increment that no rounding takes from a finite number to an infinity: it is below half of
the last gap. -/
def Increment.IsAbsorbed (i : Increment) : Prop := 2 * i.units < Format.single.lastGap

theorem Increment.isAbsorbed_ten : (ofSingle 10).IsAbsorbed := by
  unfold IsAbsorbed
  decide

/-- A pose at a finite position whose heading is less than a full turn. -/
structure Pose.IsSane (p : Pose) : Prop where
  x : p.x.isFinite = true
  y : p.y.isFinite = true
  heading : 0 ≤ p.heading ∧ p.heading < 360

namespace Pose

variable {p : Pose} {x y steps degrees factor : Single} {i : Increment}

theorem isSane_facing (hx : x.isFinite = true) (hy : y.isFinite = true) (degrees : Single) :
    (facing x y degrees).IsSane := ⟨hx, hy, wrapHeading_range degrees⟩

theorem IsSane.within_heading (h : p.IsSane) : p.heading.Within fullTurn := by
  obtain ⟨hnonneg, hlt⟩ := h.heading
  rw [fullTurn_eq] at hlt
  exact within_of_nonneg_of_lt hnonneg hlt

theorem IsSane.isFinite_angle (h : p.IsSane) :
    (p.heading * radiansPerDegree).isFinite = true := by
  have hradians : radiansPerDegree.Within (2 ^ Format.single.scale) := by decide +kernel
  exact (h.within_heading.mul hradians holds_fullTurn (Nat.le_refl _)).isFinite

/-- The sum that a turn wraps does not overflow. -/
theorem IsSane.isFinite_heading_add (h : p.IsSane) (hdegrees : degrees.isFinite = true) :
    (p.heading + degrees).isFinite = true := by
  have hgap := fullTurn_lt_lastGap
  exact isFinite_add Format.single_hasWholes h.within_heading (within_greatest hdegrees) (by omega)

/-- A coordinate stays finite by a share of a move that is no longer than the increment. -/
theorem isFinite_add_mul (hi : i.IsAbsorbed) (hx : x.isFinite = true)
    (hfactor : factor.Within (2 ^ Format.single.scale)) (hsteps : steps.Within i.units) :
    (x + factor * steps).isFinite = true := by
  unfold Increment.IsAbsorbed at hi
  have hproduct := hfactor.mul hsteps i.held (Nat.mul_comm _ _).le
  exact isFinite_add Format.single_hasWholes (within_greatest hx) hproduct (by omega)

/-- Any two factors between -1 and 1 may stand for the cosine and the sine of the heading. -/
theorem IsSane.add_mul (h : p.IsSane) (hi : i.IsAbsorbed) (hsteps : steps.Within i.units)
    {cosine sine : Single} (hcosine : cosine.Within (2 ^ Format.single.scale))
    (hsine : sine.Within (2 ^ Format.single.scale)) :
    IsSane { p with x := p.x + cosine * steps, y := p.y + sine * steps } where
  x := isFinite_add_mul hi h.x hcosine hsteps
  y := isFinite_add_mul hi h.y hsine hsteps
  heading := h.heading

theorem IsSane.advance (h : p.IsSane) (hi : i.IsAbsorbed) (hsteps : steps.Within i.units) :
    (p.advance steps).IsSane := by
  have hcosine := Trigonometry.within_cosine h.isFinite_angle
  have hsine := Trigonometry.within_sine h.isFinite_angle
  exact h.add_mul hi hsteps hcosine hsine

theorem IsSane.turn (h : p.IsSane) (degrees : Single) : (p.turn degrees).IsSane :=
  ⟨h.x, h.y, wrapHeading_range _⟩

theorem IsSane.goto (h : p.IsSane) (hx : x.isFinite = true) (hy : y.isFinite = true) :
    (p.goto x y).IsSane := ⟨hx, hy, h.heading⟩

end Pose

/-! ## Actors and sprites -/

namespace Actor

variable {a : Actor} {block : Block} {i : Increment}

theorem isSane_perform (h : a.pose.IsSane) (hi : i.IsAbsorbed)
    (hblock : block.IsClean i.toSingle) : (a.perform block).1.pose.IsSane := by
  cases block with
  | move steps => exact h.advance hi (within_of_abs_le hblock.1 hblock.2)
  | turn degrees => exact h.turn degrees
  | goto x y => exact h.goto hblock.1 hblock.2
  | speak _ _ _ => exact h
  | repeated _ _ => exact h
  | unknown _ => exact h

theorem isSane_tick (h : a.pose.IsSane) (hi : i.IsAbsorbed) (harmed : a.armed.IsClean i.toSingle) :
    a.tick.1.pose.IsSane := by
  rw [tick_eq]
  cases hcurrent : a.current? with
  | none => exact h
  | some block =>
      obtain ⟨run, -, hget⟩ := exists_run hcurrent
      have hclean := harmed.blocks run.trigger block (Array.mem_of_getElem? hget)
      exact isSane_perform (a := { a with cooldown := a.cooldown - 1 }) h hi hclean

end Actor

namespace Sprite

variable {s s' : Sprite} {i : Increment} {cooldown : Nat}

theorem Changes.start_eq (h : s.Changes i cooldown s') : s'.actor.start = s.actor.start := by
  cases h with
  | arm t => cases t <;> rfl
  | act => exact s.actor.start_tick
  | takeOver p => rw [actor_takeOver]
  | _ => rfl

theorem Changes.isSane (h : s.Changes i cooldown s') (hi : i.IsAbsorbed)
    (hs : s.IsPoised i.toSingle) (hstart : s.actor.start.IsSane) (hpose : s.actor.pose.IsSane) :
    s'.actor.pose.IsSane := by
  cases h with
  | arm t =>
      cases t with
      | play => exact hstart
      | click => exact hpose
  | restart => exact hstart
  | act => exact Actor.isSane_tick hpose hi hs.armed
  | takeOver p =>
      rw [actor_takeOver]
      exact hpose
  | _ => exact hpose

/-- A sprite whose pose is sane if its start pose is, and whose scripts cannot change that. -/
structure IsSteady (i : Increment) (s : Sprite) : Prop where
  poised : s.IsPoised i.toSingle
  pose : s.actor.start.IsSane → s.actor.pose.IsSane

theorem isSteady_ofSpec (i : Increment) (spec : SpriteSpec) : (ofSpec i spec).IsSteady i :=
  ⟨isPoised_ofSpec i spec, fun hstart => hstart⟩

theorem IsSteady.changes (hs : s.IsSteady i) (hi : i.IsAbsorbed) (h : s.Changes i cooldown s') :
    s'.IsSteady i := by
  refine ⟨hs.poised.changes h, fun hstart => ?_⟩
  rw [h.start_eq] at hstart
  exact h.isSane hi hs.poised hstart (hs.pose hstart)

end Sprite

/-! ## Casts and sessions -/

namespace Cast

open Relation

variable {c c' : Cast} {i : Increment} {cooldown : Nat}

structure IsSteady (i : Increment) (c : Cast) : Prop where
  increment : c.increment = i
  sprites : ∀ sprite ∈ c.sprites, sprite.IsSteady i

theorem IsSteady.changes (hc : c.IsSteady i) (hi : i.IsAbsorbed) (h : c.Changes cooldown c') :
    c'.IsSteady i := by
  refine ⟨h.increment_eq.trans hc.increment, fun sprite' hsprite' => ?_⟩
  have hcome := h.exists_of_mem hsprite'
  rw [hc.increment] at hcome
  obtain ⟨spec, rfl⟩ | ⟨sprite, hsprite, hchange⟩ := hcome
  · exact Sprite.isSteady_ofSpec i spec
  · exact (hc.sprites sprite hsprite).changes hi hchange

theorem IsSteady.changesAll (hc : c.IsSteady i) (hi : i.IsAbsorbed)
    (h : ReflTransGen (Changes cooldown) c c') : c'.IsSteady i := by
  induction h with
  | refl => exact hc
  | tail _ hstep ih => exact ih.changes hi hstep

end Cast

namespace Session

variable {s : Session} {sprite : Sprite} {x y degrees : Single}

theorem Reachable.isSteady (hs : s.Reachable)
    (hi : (Increment.ofSingle s.settings.moveIncrement).IsAbsorbed) :
    s.cast.IsSteady (.ofSingle s.settings.moveIncrement) := by
  refine hs.cast_keeps (P := fun settings c =>
    (Increment.ofSingle settings.moveIncrement).IsAbsorbed →
      c.IsSteady (.ofSingle settings.moveIncrement)) ?_ ?_ hi
  · exact fun _ _ => ⟨rfl, fun _ hsprite => by cases hsprite⟩
  · exact fun _ _ _ hstep hc hi => (hc hi).changes hi hstep

/-- With the increment that is the default, every sprite whose start pose is at a finite position
has a sane pose in every reachable session and between the ticks that an operation runs, whatever
numbers the programs have; and no turn that it is armed with overflows there. -/
theorem Reachable.poses_stay_sane (hs : s.Reachable) (hdefault : s.settings.moveIncrement = 10)
    (now : Instant) (count : Nat) (hsprite : sprite ∈ (s.tickTimes now count).cast.sprites)
    (hstart : sprite.actor.start = .facing x y degrees)
    (hx : x.isFinite = true) (hy : y.isFinite = true) :
    sprite.actor.pose.IsSane ∧
      ∀ t turn, .turn turn ∈ sprite.actor.armed.script t →
        (sprite.actor.pose.heading + turn).isFinite = true := by
  have hi : (Increment.ofSingle s.settings.moveIncrement).IsAbsorbed := by
    rw [hdefault]
    exact Increment.isAbsorbed_ten
  have hsteady := ((hs.isSteady hi).changesAll hi (s.changes_tickTimes now count)).sprites
    sprite hsprite
  have hsane : sprite.actor.pose.IsSane :=
    hsteady.pose (hstart ▸ Pose.isSane_facing hx hy degrees)
  refine ⟨hsane, fun t turn hturn => ?_⟩
  have hclean := hsteady.poised.armed.blocks t _ hturn
  exact hsane.isFinite_heading_add hclean

/-- A session with a sprite that goes to the greatest coordinate and then on, by numbers that a flat
script does not keep as they are. -/
def soaring : Session :=
  let greatest : Single := finite false _ Format.single_hasWholes.holds_greatest
  let cat : SpriteSpec :=
    { id := "cat"
      name := "Cat"
      start := .facing 0 0 (-90)
      program := { play := [.turn 90, .goto greatest .nan, .move 25, .turn greatest,
        .turn (.infinite true)] } }
  (ofSettings {}).afterAll [.add cat, .play 0, .step 0]

theorem Reachable.poses_stay_sane_soaring :
    ∃ sprite ∈ (soaring.tickTimes 0 4).cast.sprites,
      sprite.actor.pose.x = finite false _ Format.single_hasWholes.holds_greatest ∧
        sprite.actor.pose.IsSane ∧
        ∀ t turn, .turn turn ∈ sprite.actor.armed.script t →
          (sprite.actor.pose.heading + turn).isFinite = true := by
  have hreachable : soaring.Reachable := (Reachable.new _).afterAll _
  have hdefault : soaring.settings.moveIncrement = 10 := by
    rw [soaring, settings_afterAll]
    rfl
  have hany : (soaring.tickTimes 0 4).cast.sprites.any (fun sprite =>
      decide (sprite.actor.start = .facing 0 0 (-90) ∧
        sprite.actor.pose.x = finite false _ Format.single_hasWholes.holds_greatest)) = true := by
    decide +kernel
  obtain ⟨sprite, hsprite, hfound⟩ := List.any_eq_true.1 hany
  obtain ⟨hstart, hgreatest⟩ := of_decide_eq_true hfound
  exact ⟨sprite, hsprite, hgreatest,
    hreachable.poses_stay_sane hdefault 0 4 hsprite hstart (by decide) (by decide)⟩

end Session

end SpriteStage
