import SpriteStage.Proofs.Deadlines
import SpriteStage.Proofs.PlaybackParts
import SpriteStage.Proofs.SessionCore

/-!
# Sessions without bubbles

When a tick or a click happens matters for bubbles only, which go by deadlines, and for the clock.
A hushed session has neither: ticks and clicks do the same to sessions that are equal when hushed,
at whatever times they happen (`tick_hushed`, `click_hushed`), and an advance is as good as the
ticks that it runs (`advance_hushed`).
-/

namespace SpriteStage

/-! ## Sprites -/

namespace Sprite

theorem isBlind_clearBubble : IsBlind clearBubble where
  stance _ := rfl
  cooldown _ := rfl
  program _ := rfl
  activeTrigger _ := rfl
  takeOver s i p cooldown := by
    obtain ⟨_, _, _, _, _, ⟨_, _, _, _, run, _⟩⟩ := s
    cases run <;> rfl

theorem clearBubble_clearBubble (s : Sprite) : s.clearBubble.clearBubble = s.clearBubble := rfl

theorem clearBubble_act (s : Sprite) : s.clearBubble.act.clearBubble = s.act.clearBubble := by
  rw [s.act_clearBubble 0]
  split <;> rfl

theorem clearBubble_arm (s : Sprite) (t : Trigger) :
    s.clearBubble.arm t = (s.arm t).clearBubble := by
  cases t <;> rfl

end Sprite

theorem Cast.project_clearBubble (c : Cast) :
    (c.project Sprite.clearBubble).project Sprite.clearBubble = c.project Sprite.clearBubble :=
  c.project_project Sprite.clearBubble_clearBubble

/-! ## Sessions -/

namespace Session

variable {s t : Session}

/-- The session without bubbles, their timers and its clock, and with no sprite selected. -/
def hushed (s : Session) : Session :=
  { s with cast := s.cast.project Sprite.clearBubble, timers := {}, clock := default }

theorem hushed_hushed (s : Session) : s.hushed.hushed = s.hushed :=
  congrArg (fun cast => { s with cast, timers := {}, clock := default })
    s.cast.project_clearBubble

theorem acted_hushed (s : Session) (now : Instant) :
    (s.acted now).hushed = (s.hushed.acted 0).hushed := by
  have hsprites : (s.cast.sprites.map (·.act)).map (·.clearBubble) =
      ((s.cast.sprites.map (·.clearBubble)).map (·.act)).map (·.clearBubble) := by
    rw [List.map_map, List.map_map, List.map_map]
    exact List.map_congr_left fun sprite _ => sprite.clearBubble_act.symm
  unfold acted
  rw [act_eq, act_eq]
  exact congrArg (fun sprites => { s with
    cast := { s.cast with sprites, selected := none }
    timers := {}
    clock := default
    ticks := s.ticks + 1
    sinceScan := s.sinceScan + 1 }) hsprites

theorem scan_hushed (s : Session) : s.scan.hushed = s.hushed.scan := by
  have hproject := s.monitor.coordinate_project Sprite.isBlind_clearBubble s.cast
    s.settings.swapCooldown
  unfold scan hushed
  dsimp only
  rw [hproject]
  rfl

theorem tick_hushed (s : Session) (now : Instant) :
    (s.tick now).hushed = (s.hushed.tick 0).hushed := by
  have hacted := s.acted_hushed now
  rw [tick_eq, tick_eq]
  change _ = (if max s.settings.scanEvery 1 ≤ s.sinceScan + 1 then (s.hushed.acted 0).scan
    else s.hushed.acted 0).hushed
  split
  · rw [scan_hushed, scan_hushed, hacted]
  · exact hacted

theorem isClickable_hushed (s : Session) (id : SpriteId) :
    s.hushed.isClickable id = s.isClickable id := by
  have hfind := Cast.find?_project Sprite.isBlind_clearBubble.id_eq s.cast id
  unfold isClickable
  change ((s.cast.project Sprite.clearBubble).find? id).any _ = _
  rw [hfind, Option.any_map]
  rfl

theorem click_hushed (s : Session) (id : SpriteId) (now : Instant) :
    (s.click id now).hushed = (s.hushed.click id 0).hushed := by
  have harmed := Cast.modify_project Sprite.isBlind_clearBubble.id_eq
    (f := fun sprite => sprite.arm .click) (fun sprite => sprite.clearBubble_arm .click) s.cast id
  have hcast := (congrArg (Cast.project Sprite.clearBubble) harmed).trans
    (Cast.project_clearBubble _)
  unfold click
  rw [isClickable_hushed]
  split
  · exact congrArg (fun cast => { s with cast, timers := {}, clock := default }) hcast.symm
  · exact s.hushed_hushed.symm

/-! ## Times -/

theorem tick_congr (h : s.hushed = t.hushed) (now now' : Instant) :
    (s.tick now).hushed = (t.tick now').hushed := by
  rw [tick_hushed, h, ← tick_hushed]

theorem tickTimes_congr (h : s.hushed = t.hushed) (now now' : Instant) (count : Nat) :
    (s.tickTimes now count).hushed = (t.tickTimes now' count).hushed := by
  induction count generalizing s t with
  | zero => exact h
  | succ count ih => exact ih (tick_congr h now now')

theorem clickAll_congr (h : s.hushed = t.hushed) (now now' : Instant) (ids : List SpriteId) :
    (s.clickAll now ids).hushed = (t.clickAll now' ids).hushed := by
  induction ids generalizing s t with
  | nil => exact h
  | cons id ids ih =>
      refine ih (s := s.click id now) (t := t.click id now') ?_
      rw [click_hushed, h, ← click_hushed]

theorem expireBubbles_hushed (s : Session) (now : Instant) :
    (s.expireBubbles now).hushed = s.hushed := by
  have hsprites : (s.cast.sprites.map fun sprite =>
        if sprite.id ∈ s.timers.expired now then sprite.clearBubble else sprite).map
          (·.clearBubble) = s.cast.sprites.map (·.clearBubble) := by
    rw [List.map_map]
    refine List.map_congr_left fun sprite _ => ?_
    dsimp only [Function.comp]
    split <;> rfl
  have hcast : (s.expireBubbles now).cast.project Sprite.clearBubble =
      s.cast.project Sprite.clearBubble := by
    rw [cast_expireBubbles]
    exact congrArg (fun sprites => { s.cast with sprites, selected := none }) hsprites
  exact congrArg (fun cast => { s with cast, timers := {}, clock := default }) hcast

theorem step_hushed (s : Session) (now : Instant) : (s.step now).hushed = (s.tick now).hushed :=
  (s.tick now).expireBubbles_hushed now

/-- An advance runs its ticks, and what else it does cannot be told when hushed. -/
theorem advance_hushed (s : Session) (now : Instant) :
    (s.advance now).2.hushed = (s.tickTimes now (s.advance now).1).hushed := by
  have hfed : (s.fed now).hushed = s.hushed := rfl
  exact (expireBubbles_hushed _ now).trans (tickTimes_congr hfed now now _)

/-- Whenever a session is played, it is the same when hushed. -/
theorem play_hushed (s : Session) (now now' : Instant) :
    (s.play now).hushed = (s.play now').hushed := rfl

end Session

end SpriteStage
