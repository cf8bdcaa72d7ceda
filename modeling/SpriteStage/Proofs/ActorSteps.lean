import SpriteStage.Actor

/-!
# One tick of an actor

A tick carries out the block that the actor is at, if there is one, and goes on to the next
(`Actor.tick_eq`). What a block does concerns the pose and the bubble alone (`Block.carriedOut`), so
the armed program and the start pose stay as they are, and which effect a tick has depends on its
block alone (`Actor.effect_tick`).
-/

namespace SpriteStage

open Trigonometry in
/-- What a block makes of a pose and a bubble. -/
def Block.carriedOut : Pose × Option Bubble → Block → Pose × Option Bubble
  | (pose, bubble), move steps =>
    let angle := pose.heading * radiansPerDegree
    (⟨pose.x + cosine angle * steps, pose.y + sine angle * steps, pose.heading⟩, bubble)
  | (pose, bubble), turn degrees => (⟨pose.x, pose.y, wrapHeading (pose.heading + degrees)⟩, bubble)
  | (pose, bubble), goto x y => (⟨x, y, pose.heading⟩, bubble)
  | (pose, _), speak kind text _ => (pose, some ⟨kind, text⟩)
  | state, repeated .. | state, unknown _ => state

/-- The effect that carrying out a block has. -/
def Block.effect : Block → Effect
  | move _ | turn _ | goto .. => .applied
  | speak _ _ seconds => .bubble seconds
  | repeated .. | unknown _ => .skipped

namespace Actor

variable {a : Actor} {block : Block}

/-- The block that an actor carries out next. -/
def current? (a : Actor) : Option Block :=
  a.run.bind fun run => (a.armed.script run.trigger)[run.next]?

theorem tick_eq (a : Actor) :
    a.tick = match a.current? with
      | none => ({ a with cooldown := a.cooldown - 1 }, .none)
      | some block =>
        let performed := { a with cooldown := a.cooldown - 1 }.perform block
        ({ performed.1 with run := a.run.map fun run => { run with next := run.next + 1 } },
          performed.2) := by
  unfold tick current?
  cases a.run with
  | none => rfl
  | some run =>
      dsimp only [Option.bind_some]
      cases (a.armed.script run.trigger)[run.next]? <;> rfl

theorem perform_fst (a : Actor) (block : Block) :
    (a.perform block).1 = { a with
      pose := (block.carriedOut (a.pose, a.bubble)).1
      bubble := (block.carriedOut (a.pose, a.bubble)).2 } := by
  cases block <;> rfl

theorem effect_perform (a : Actor) (block : Block) : (a.perform block).2 = block.effect := by
  cases block <;> rfl

theorem effect_tick (a : Actor) : a.tick.2 = (a.current?.map Block.effect).getD .none := by
  rw [tick_eq]
  cases a.current? with
  | none => rfl
  | some block => exact effect_perform _ block

/-- A tick keeps what no block concerns, but for the run and the cooldown. -/
theorem tick_fst (a : Actor) :
    a.tick.1 = { a with
      pose := a.tick.1.pose
      bubble := a.tick.1.bubble
      run := a.tick.1.run
      cooldown := a.cooldown - 1 } := by
  rw [tick_eq]
  cases a.current? with
  | none => rfl
  | some block =>
      dsimp only
      rw [perform_fst]

theorem cooldown_tick (a : Actor) : a.tick.1.cooldown = a.cooldown - 1 := by rw [tick_fst]

theorem armed_tick (a : Actor) : a.tick.1.armed = a.armed := by rw [tick_fst]

theorem start_tick (a : Actor) : a.tick.1.start = a.start := by rw [tick_fst]

theorem run_tick (a : Actor) :
    a.tick.1.run =
      if a.current?.isSome then a.run.map fun run => { run with next := run.next + 1 }
      else a.run := by
  rw [tick_eq]
  cases a.current? <;> rfl

theorem isIdle_tick (a : Actor) : a.tick.1.isIdle = a.isIdle := by
  unfold isIdle
  rw [run_tick]
  split
  · exact Option.isNone_map
  · rfl

theorem exists_run (h : a.current? = some block) :
    ∃ run, a.run = some run ∧ (a.armed.script run.trigger)[run.next]? = some block :=
  Option.bind_eq_some_iff.1 h

end Actor

end SpriteStage
