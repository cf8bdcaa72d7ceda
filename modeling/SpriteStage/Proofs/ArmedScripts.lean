import SpriteStage.Proofs.ActorSteps
import SpriteStage.Proofs.Expansion
import SpriteStage.Proofs.SessionInvariants

/-!
# Where an actor is in its script

Making a program flat leaves nothing in it that cannot be carried out, blocks of an unknown kind
apart (`Program.isClean_flatten`). Actors hold flat programs only, and arming puts an actor at
the first block of the program that it gets, so no index is ever beyond the end of its script,
whatever scripts are armed in place of one another (`Sprite.IsPoised`). The state of an actor can
then be read off its index in every reachable session (`Reachable.index_within_script`).
-/

namespace SpriteStage

/-! ## Clean blocks -/

/-- A block as it may stand in a flat script: its numbers are finite, a move is no longer than a
limit, and a bubble stays for no negative time. -/
def Block.IsClean (limit : Single) : Block → Prop
  | move steps => steps.isFinite = true ∧ steps.abs ≤ limit
  | turn degrees => degrees.isFinite = true
  | goto x y => x.isFinite = true ∧ y.isFinite = true
  | speak _ _ seconds => seconds.isFinite = true ∧ 0 ≤ seconds
  | repeated .. => False
  | unknown _ => True

/-- A clean block is skipped only if its kind is unknown. -/
theorem Block.IsClean.exists_unknown {limit : Single} {block : Block} (h : block.IsClean limit)
    (hskipped : block.effect = .skipped) : ∃ kind, block = .unknown kind := by
  cases block with
  | repeated count body => exact h.elim
  | unknown kind => exact ⟨kind, rfl⟩
  | _ => cases hskipped

namespace Script

theorem isFinite_finiteOrZero (value : Single) : (finiteOrZero value).isFinite = true := by
  obtain ⟨negative, units, held, hvalue⟩ := exists_finiteOrZero_eq value
  rw [hvalue]
  rfl

theorem isClean_secondsOrOne (seconds : Single) :
    (secondsOrOne seconds).isFinite = true ∧ 0 ≤ secondsOrOne seconds := by
  unfold secondsOrOne
  split
  · rename_i h
    obtain ⟨hfinite, hnonneg⟩ := h
    cases seconds with
    | finite negative units held => exact ⟨hfinite, Binary.zero_le_finite_iff.2 hnonneg⟩
    | _ => cases hfinite
  · decide

variable (i : Increment)

theorem isClean_move {negative : Bool} {units : Nat} (held : Format.single.Holds units)
    (hle : units ≤ i.units) :
    (Block.move (.finite negative units held)).IsClean i.toSingle :=
  ⟨rfl, Binary.finite_le_finite.2 hle⟩

/-- The moves of a distance are whole increments and one move that is no longer. -/
theorem isClean_expandMove (steps : Single) :
    ∀ block ∈ expandMove i.toSingle (finiteOrZero steps), block.IsClean i.toSingle := by
  obtain ⟨negative, distance, hd, hsteps⟩ := exists_finiteOrZero_eq steps
  rw [hsteps, expandMove]
  split
  · rw [List.forall_mem_singleton, Binary.zero_eq_finite]
    exact isClean_move i _ (Nat.zero_le _)
  · rename_i hzero
    have hpos : 0 < distance := Nat.pos_of_ne_zero (mt Binary.toRat_eq_zero_iff.2 hzero)
    have hmoves := @Increment.map_ofRat_moveLengths i distance negative hd hpos
    have hlast := i.le_all_steps hpos
    rw [Nat.succ_mul] at hlast
    intro block hblock
    obtain ⟨q, hq, rfl⟩ := List.mem_map.1 hblock
    have hmem := List.mem_map_of_mem (f := (Binary.ofRat : ℚ → Single)) hq
    rw [hmoves, List.mem_append, List.mem_singleton] at hmem
    rcases hmem with hwhole | hrest
    · rw [(List.mem_replicate.1 hwhole).2]
      exact isClean_move i _ (Nat.le_refl _)
    · rw [hrest]
      exact isClean_move i _ (by omega)

mutual

theorem isClean_expandBlock (block : Block) :
    ∀ b ∈ expandBlock i.toSingle block, b.IsClean i.toSingle := by
  match block with
  | .move steps =>
      rw [expandBlock]
      exact isClean_expandMove i steps
  | .turn degrees =>
      rw [expandBlock, List.forall_mem_singleton]
      exact isFinite_finiteOrZero degrees
  | .goto x y =>
      rw [expandBlock, List.forall_mem_singleton]
      exact ⟨isFinite_finiteOrZero x, isFinite_finiteOrZero y⟩
  | .speak kind text seconds =>
      rw [expandBlock, List.forall_mem_singleton]
      exact isClean_secondsOrOne seconds
  | .repeated count body =>
      intro b hb
      rw [expandBlock, List.mem_flatten] at hb
      obtain ⟨blocks, hblocks, hb⟩ := hb
      rw [(List.mem_replicate.1 hblocks).2] at hb
      exact isClean_expand body b hb
  | .unknown kind =>
      rw [expandBlock, List.forall_mem_singleton]
      trivial

theorem isClean_expand (blocks : List Block) :
    ∀ b ∈ expand i.toSingle blocks, b.IsClean i.toSingle := by
  match blocks with
  | [] =>
      rw [expand]
      exact List.forall_mem_nil _
  | block :: blocks =>
      rw [expand, List.forall_mem_append]
      exact ⟨isClean_expandBlock block, isClean_expand blocks⟩

end

end Script

namespace FlatProgram

/-- A flat program that can be carried out: no script is too long, and every block is clean. -/
structure IsClean (limit : Single) (p : FlatProgram) : Prop where
  size_le : ∀ t, (p.script t).size ≤ greatestLength
  blocks : ∀ t, ∀ block ∈ p.script t, block.IsClean limit

theorem isClean_empty (limit : Single) : IsClean limit {} := by
  constructor
  · intro t
    cases t <;> exact Nat.zero_le _
  · intro t block hblock
    cases t <;> cases Array.mem_def.1 hblock

end FlatProgram

open FlatProgram in
theorem Program.isClean_flatten (p : Program) (i : Increment) :
    (p.flatten i).IsClean i.toSingle := by
  have hscript (t : Trigger) : ((p.flatten i).script t).toList =
      (Script.expand i.toSingle (p.script t)).take greatestLength := by
    cases t <;> exact (extends_output i _).blocks
  constructor
  · intro t
    rw [← Array.length_toList, hscript, List.length_take]
    exact Nat.min_le_left _ _
  · intro t block hblock
    rw [← Array.mem_toList_iff, hscript] at hblock
    exact Script.isClean_expand i _ block (List.mem_of_mem_take hblock)

/-! ## Where actors stand -/

namespace Actor

variable {a : Actor} {t : Trigger}

/-- An actor is not beyond the end of its script. -/
def IsWithin (a : Actor) : Prop :=
  ∀ run, a.run = some run → run.next ≤ (a.armed.script run.trigger).size

theorem IsWithin.tick (h : a.IsWithin) : a.tick.1.IsWithin := by
  intro run hrun
  rw [run_tick] at hrun
  rw [armed_tick]
  split at hrun
  · rename_i hcurrent
    obtain ⟨block, hblock⟩ := Option.isSome_iff_exists.1 hcurrent
    obtain ⟨before, hbefore, hget⟩ := exists_run hblock
    have hlt := (Array.getElem?_eq_some_iff.1 hget).1
    rw [hbefore, Option.map_some, Option.some.injEq] at hrun
    subst hrun
    exact hlt
  · exact h run hrun

/-- An actor that is armed has not left its script: its index is one of the script, and then it is
running, or the index behind the last one, and then it has finished. -/
structure IsArmed (a : Actor) (t : Trigger) : Prop where
  trigger : a.trigger? = some t
  nonneg : 0 ≤ a.index
  le_size : a.index ≤ (a.armed.script t).size
  running_iff : a.phase = .running ↔ a.index < (a.armed.script t).size
  finished_iff : a.phase = .finished ↔ a.index = (a.armed.script t).size

/-- An actor that is not armed has no index and no script to be at. -/
structure IsUnarmed (a : Actor) : Prop where
  trigger : a.trigger? = none
  index : a.index = -1
  phase : a.phase = .idle

theorem IsWithin.isUnarmed_or_isArmed (h : a.IsWithin) : a.IsUnarmed ∨ ∃ t, a.IsArmed t := by
  cases hrun : a.run with
  | none =>
      refine .inl ⟨?_, ?_, ?_⟩
      · rw [trigger?, hrun, Option.map_none]
      · rw [index, hrun]
      · rw [phase, hrun]
  | some run =>
      have hle := h run hrun
      have hindex : a.index = run.next := by rw [index, hrun]
      have hphase : a.phase =
          if run.next < (a.armed.script run.trigger).size then .running else .finished := by
        rw [phase, hrun]
      refine .inr ⟨run.trigger, ?_, ?_, ?_, ?_, ?_⟩
      · rw [trigger?, hrun, Option.map_some]
      · omega
      · omega
      · rw [hphase, hindex]
        split <;> simp <;> omega
      · rw [hphase, hindex]
        split <;> simp <;> omega

/-- An armed actor that has not come to the end goes on by one block. -/
theorem IsArmed.index_tick (h : a.IsArmed t) (hlt : a.index < (a.armed.script t).size) :
    a.tick.1.trigger? = some t ∧ a.tick.1.index = a.index + 1 := by
  obtain ⟨run, hrun, rfl⟩ := Option.map_eq_some_iff.1 h.trigger
  have hindex : a.index = run.next := by rw [index, hrun]
  have hnext : run.next < (a.armed.script run.trigger).size := by omega
  have hcurrent : a.current?.isSome = true := by
    rw [current?, hrun, Option.bind_some, Array.getElem?_eq_getElem hnext]
    rfl
  have hafter : a.tick.1.run = some { run with next := run.next + 1 } := by
    rw [run_tick, if_pos hcurrent, hrun]
    rfl
  constructor
  · rw [trigger?, hafter, Option.map_some]
  · rw [hindex, index, hafter]
    rfl

/-- A tick that is skipped is one at a block of an unknown kind. -/
theorem exists_unknown_of_skipped {limit : Single} (h : a.armed.IsClean limit)
    (hskipped : a.tick.2 = .skipped) :
    ∃ t kind, ∃ next : Nat, a.trigger? = some t ∧ a.index = next ∧
      (a.armed.script t)[next]? = some (.unknown kind) := by
  rw [effect_tick] at hskipped
  cases hcurrent : a.current? with
  | none =>
      rw [hcurrent] at hskipped
      cases hskipped
  | some block =>
      rw [hcurrent, Option.map_some, Option.getD_some] at hskipped
      obtain ⟨run, hrun, hget⟩ := exists_run hcurrent
      have hclean := h.blocks run.trigger block (Array.mem_of_getElem? hget)
      obtain ⟨kind, rfl⟩ := hclean.exists_unknown hskipped
      refine ⟨run.trigger, kind, run.next, ?_, ?_, hget⟩
      · rw [trigger?, hrun, Option.map_some]
      · rw [index, hrun]

end Actor

/-! ## Sprites -/

/-- A sprite whose flat program is clean, as is the one that its actor is armed with, and whose
actor is not beyond the end of its script. -/
structure Sprite.IsPoised (limit : Single) (s : Sprite) : Prop where
  flat : s.flat.IsClean limit
  armed : s.actor.armed.IsClean limit
  within : s.actor.IsWithin

namespace Sprite

variable {s s' : Sprite} {i : Increment}

theorem isPoised_ofSpec (i : Increment) (spec : SpriteSpec) :
    (ofSpec i spec).IsPoised i.toSingle where
  flat := spec.program.isClean_flatten i
  armed := FlatProgram.isClean_empty _
  within := fun run hrun => by cases hrun

theorem IsPoised.changes {cooldown : Nat} (h : s.IsPoised i.toSingle)
    (hs : s.Changes i cooldown s') : s'.IsPoised i.toSingle := by
  have hfirst (a : Actor) (t : Trigger) (p : FlatProgram) : (a.armInPlace t p).IsWithin := by
    intro run hrun
    obtain rfl := Option.some.inj hrun
    exact Nat.zero_le _
  cases hs with
  | keep => exact h
  | withProgram p => exact ⟨p.isClean_flatten i, h.armed, h.within⟩
  | arm t =>
      cases t with
      | play => exact ⟨h.flat, h.flat, hfirst _ _ _⟩
      | click => exact ⟨h.flat, h.flat, hfirst _ _ _⟩
  | restart => exact ⟨h.flat, h.armed, fun run hrun => by cases hrun⟩
  | act =>
      have harmed : s.act.actor.armed = s.actor.armed := s.actor.armed_tick
      exact ⟨h.flat, harmed ▸ h.armed, h.within.tick⟩
  | takeOver p =>
      have hnew := p.isClean_flatten i
      unfold takeOver
      dsimp only
      split
      · rename_i t _
        exact ⟨hnew, hnew, hfirst s.actor t _⟩
      · exact ⟨hnew, h.armed, h.within⟩
  | clearBubble => exact ⟨h.flat, h.armed, h.within⟩

end Sprite

namespace Session

variable {s : Session} {sprite : Sprite}

theorem Reachable.isPoised (hs : s.Reachable) (hsprite : sprite ∈ s.cast.sprites) :
    sprite.IsPoised (Script.usedIncrement s.settings.moveIncrement) := by
  have hpoised := hs.cast_keeps
    (P := fun _ c => ∀ sprite ∈ c.sprites, sprite.IsPoised c.increment.toSingle)
    (fun _ _ h => by cases h) fun _ c c' hstep hc sprite' hsprite' => by
      rw [hstep.increment_eq]
      obtain ⟨spec, rfl⟩ | ⟨before, hbefore, hchange⟩ := hstep.exists_of_mem hsprite'
      · exact Sprite.isPoised_ofSpec _ spec
      · exact (hc before hbefore).changes hchange
  have hlimit := FlatProgram.toSingle_ofSingle s.settings.moveIncrement
  rw [← hs.increment_eq] at hlimit
  exact hlimit ▸ hpoised sprite hsprite

/-- In every reachable session each actor is unarmed, or it is armed and within its script, which is
clean for the increment in force. A tick passes over a block only if its kind is unknown, and until
the end of the script every tick goes on by one block. -/
theorem Reachable.index_within_script (hs : s.Reachable) (hsprite : sprite ∈ s.cast.sprites) :
    let actor := sprite.actor
    (actor.IsUnarmed ∨ ∃ t, actor.IsArmed t) ∧
      actor.armed.IsClean (Script.usedIncrement s.settings.moveIncrement) ∧
      (actor.tick.2 = .skipped → ∃ t kind, ∃ next : Nat, actor.trigger? = some t ∧
        actor.index = next ∧ (actor.armed.script t)[next]? = some (.unknown kind)) ∧
      ∀ t, actor.IsArmed t → actor.index < (actor.armed.script t).size →
        actor.tick.1.armed = actor.armed ∧ actor.tick.1.trigger? = some t ∧
          actor.tick.1.index = actor.index + 1 := by
  have hpoised := hs.isPoised hsprite
  refine ⟨hpoised.within.isUnarmed_or_isArmed, hpoised.armed, ?_, ?_⟩
  · exact Actor.exists_unknown_of_skipped hpoised.armed
  · intro t harmed hlt
    exact ⟨sprite.actor.armed_tick, harmed.index_tick hlt⟩

/-- A session with an increment that is not valid, and a sprite at a block of an unknown kind. -/
def stumbling : Session :=
  let cat : SpriteSpec :=
    { id := "cat"
      name := "Cat"
      start := default
      program := { play := [.turn .nan, .repeated 2 [.unknown "jump"]] } }
  (ofSettings { moveIncrement := 0 }).afterAll [.add cat, .play 0, .step 0]

theorem Reachable.index_within_script_stumbling :
    ∃ sprite ∈ stumbling.cast.sprites, sprite.actor.tick.2 = .skipped ∧
      sprite.actor.armed.IsClean 10 ∧
      ∃ t kind, ∃ next : Nat, sprite.actor.trigger? = some t ∧ sprite.actor.index = next ∧
        (sprite.actor.armed.script t)[next]? = some (.unknown kind) := by
  have hreachable : stumbling.Reachable := (Reachable.new _).afterAll _
  have hany : stumbling.cast.sprites.any
      (fun sprite => decide (sprite.actor.tick.2 = .skipped)) = true := by decide +kernel
  obtain ⟨sprite, hsprite, hskipped⟩ := List.any_eq_true.1 hany
  have hskipped := of_decide_eq_true hskipped
  obtain ⟨-, hclean, hunknown, -⟩ := hreachable.index_within_script hsprite
  have hused : Script.usedIncrement stumbling.settings.moveIncrement = 10 := by
    rw [← FlatProgram.toSingle_ofSingle, stumbling, settings_afterAll]
    decide
  rw [hused] at hclean
  exact ⟨sprite, hsprite, hskipped, hclean, hunknown hskipped⟩

end Session

end SpriteStage
