import SpriteStage.Proofs.ActorSteps
import SpriteStage.Proofs.SessionParts

/-!
# Deadlines and bubbles

A sprite that speaks as it acts has its deadline set anew, whatever it was before, and every other
sprite keeps the deadline that it has (`Session.deadline?_act`). In the same way a bubble that was
there before is of no account to a sprite that speaks, and is left to every other sprite
(`Sprite.act_clearBubble`). When deadlines have passed, their sprites lose their bubbles and nothing
else (`Session.expireBubbles_eq`).
-/

namespace SpriteStage

namespace Sprite

/-- The deadline that a sprite gets as it acts, if it speaks. -/
def newDeadline? (now : Instant) (s : Sprite) : Option Instant :=
  match s.actor.tick.2 with
  | .bubble seconds => some (now + BubbleTimers.lifetime seconds)
  | _ => none

theorem deadline?_schedule (s : Sprite) (now : Instant) (timers : BubbleTimers) (id : SpriteId) :
    (s.schedule now timers).deadline? id =
      if id = s.id then (s.newDeadline? now).or (timers.deadline? id) else timers.deadline? id := by
  unfold schedule newDeadline?
  cases s.actor.tick.2 <;> simp

theorem deadline?_foldl_schedule_of_ne {sprites : List Sprite} {id : SpriteId}
    (h : ∀ s ∈ sprites, s.id ≠ id) (now : Instant) (timers : BubbleTimers) :
    (sprites.foldl (schedule now) timers).deadline? id = timers.deadline? id := by
  induction sprites generalizing timers with
  | nil => rfl
  | cons first rest ih =>
      have hne : id ≠ first.id := (h first List.mem_cons_self).symm
      rw [List.foldl_cons, ih fun s hs => h s (List.mem_cons_of_mem _ hs), deadline?_schedule,
        if_neg hne]

/-- Among sprites with distinct ids only a sprite itself sets its deadline. -/
theorem deadline?_foldl_schedule {sprites : List Sprite} (hids : (sprites.map (·.id)).Nodup)
    {s : Sprite} (hs : s ∈ sprites) (now : Instant) (timers : BubbleTimers) :
    (sprites.foldl (schedule now) timers).deadline? s.id =
      (s.newDeadline? now).or (timers.deadline? s.id) := by
  induction sprites generalizing timers with
  | nil => cases hs
  | cons first rest ih =>
      rw [List.map_cons, List.nodup_cons] at hids
      obtain ⟨hfirst, hrest⟩ := hids
      rw [List.foldl_cons]
      rcases List.mem_cons.1 hs with rfl | hs
      · have hothers : ∀ t ∈ rest, t.id ≠ s.id := by
          intro t ht hid
          exact hfirst (hid ▸ List.mem_map_of_mem ht)
        rw [deadline?_foldl_schedule_of_ne hothers, deadline?_schedule, if_pos rfl]
      · have hne : s.id ≠ first.id := by
          intro hid
          exact hfirst (hid ▸ List.mem_map_of_mem hs)
        rw [ih hrest hs, deadline?_schedule, if_neg hne]

theorem newDeadline?_eq (s : Sprite) (now : Instant) :
    s.newDeadline? now = match s.actor.current? with
      | some (.speak _ _ seconds) => some (now + BubbleTimers.lifetime seconds)
      | _ => none := by
  unfold newDeadline?
  rw [Actor.effect_tick]
  cases s.actor.current? with
  | none => rfl
  | some block => cases block <;> rfl

theorem newDeadline?_clearBubble (s : Sprite) (now : Instant) :
    s.clearBubble.newDeadline? now = s.newDeadline? now := by
  rw [newDeadline?_eq, newDeadline?_eq]
  rfl

/-- Clearing a bubble before a sprite acts is clearing it afterwards, unless the sprite speaks. -/
theorem act_clearBubble (s : Sprite) (now : Instant) :
    s.clearBubble.act =
      if (s.newDeadline? now).isSome then s.act else s.act.clearBubble := by
  have hcurrent : s.clearBubble.actor.current? = s.actor.current? := rfl
  rw [newDeadline?_eq]
  unfold act
  rw [Actor.tick_eq, Actor.tick_eq, hcurrent]
  cases s.actor.current? with
  | none => rfl
  | some block => cases block <;> rfl

/-- A sprite shows a bubble after it acts if and only if it speaks or has shown one before. -/
theorem isSome_bubble_act (s : Sprite) (now : Instant) :
    s.act.actor.bubble.isSome = ((s.newDeadline? now).isSome || s.actor.bubble.isSome) := by
  rw [newDeadline?_eq]
  unfold act
  rw [Actor.tick_eq]
  cases s.actor.current? with
  | none => rfl
  | some block => cases block <;> rfl

/-! ## Bubbles that are over -/

variable {ids : List SpriteId} {s : Sprite}

/-- The sprite without a bubble, if it is one of some. -/
def clearedIn (ids : List SpriteId) (s : Sprite) : Sprite :=
  if s.id ∈ ids then s.clearBubble else s

theorem clearedIn_of_notMem (h : s.id ∉ ids) : s.clearedIn ids = s := if_neg h

@[simp] theorem id_clearedIn (ids : List SpriteId) (s : Sprite) : (s.clearedIn ids).id = s.id := by
  unfold clearedIn
  split <;> rfl

/-- What a sprite that speaks does, it does whether its bubble has been cleared or not. -/
theorem act_clearedIn (ids : List SpriteId) (s : Sprite) (now : Instant) :
    (s.clearedIn ids).act =
      if (s.newDeadline? now).isSome then s.act else s.act.clearedIn ids := by
  have hid : s.act.id = s.id := rfl
  unfold clearedIn
  rw [hid]
  split
  · exact s.act_clearBubble now
  · exact (ite_self _).symm

theorem newDeadline?_clearedIn (ids : List SpriteId) (s : Sprite) (now : Instant) :
    (s.clearedIn ids).newDeadline? now = s.newDeadline? now := by
  unfold clearedIn
  split
  · exact s.newDeadline?_clearBubble now
  · rfl

end Sprite

namespace Session

variable {s : Session}

theorem deadline?_act (hs : s.cast.ids.Nodup) {sprite : Sprite} (hsprite : sprite ∈ s.cast.sprites)
    (now : Instant) :
    (s.act now).timers.deadline? sprite.id =
      (sprite.newDeadline? now).or (s.timers.deadline? sprite.id) := by
  rw [timers_act]
  exact Sprite.deadline?_foldl_schedule hs hsprite now s.timers

theorem deadline?_act_of_notMem {id : SpriteId} (h : id ∉ s.cast.ids) (now : Instant) :
    (s.act now).timers.deadline? id = s.timers.deadline? id := by
  rw [timers_act]
  refine Sprite.deadline?_foldl_schedule_of_ne (fun sprite hsprite hid => ?_) now s.timers
  exact h (hid ▸ List.mem_map_of_mem hsprite)

/-- The sprites whose deadlines have passed lose their bubbles, and those deadlines are dropped. -/
theorem expireBubbles_eq (s : Session) (now : Instant) :
    s.expireBubbles now = { s with
      timers := s.timers.dropExpired now
      cast := { s.cast with
        sprites := s.cast.sprites.map (Sprite.clearedIn (s.timers.expired now)) } } :=
  congrArg (fun cast => { s with timers := s.timers.dropExpired now, cast })
    (cast_expireBubbles s now)

end Session

end SpriteStage
