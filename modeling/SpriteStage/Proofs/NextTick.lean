import SpriteStage.Proofs.TickAccounting

/-!
# Waiting for the next tick

Between operations the clock of a session keeps less than a period, and a frame may feed in at least
a whole one. So the time that is left until the next tick is never zero, and a host that waits for
exactly that time finds one tick due and nothing over (`Reachable.untilTick_exact`).
-/

namespace SpriteStage

namespace Clock

variable {c : Clock} {last now : Instant}

theorem untilTick_pos (h : c.accumulated < c.period) : 0 < c.untilTick := Nat.sub_pos_of_lt h

theorem untilTick_le (c : Clock) : c.untilTick ≤ c.period := Nat.sub_le _ _

theorem accumulated_add_untilTick (h : c.accumulated < c.period) :
    c.accumulated + c.untilTick = c.period := Nat.add_sub_cancel' h.le

/-- A frame that comes too early runs no tick. -/
theorem due_beginFrame_of_lt (hlast : c.last = some last) (h : c.accumulated < c.period)
    (hle : last ≤ now) (hlt : now < last + c.untilTick) : (c.beginFrame now).due = 0 := by
  have hgap : now - last < c.untilTick := Nat.sub_lt_left_of_lt_add hle hlt
  rw [due_beginFrame hlast]
  apply Nat.div_eq_of_lt
  calc c.accumulated + min (now - last) c.longestFrame
      ≤ c.accumulated + (now - last) := Nat.add_le_add_left (Nat.min_le_left _ _) _
    _ < c.accumulated + c.untilTick := Nat.add_lt_add_left hgap _
    _ = c.period := accumulated_add_untilTick h

/-- A frame that comes when the next tick is due completes the period: the limit on frames does not
cut what it feeds in. -/
theorem accumulated_add_min (h : c.accumulated < c.period) (hlimit : c.period ≤ c.longestFrame) :
    c.accumulated + min (last + c.untilTick - last) c.longestFrame = c.period := by
  rw [Nat.add_sub_cancel_left, Nat.min_eq_left (c.untilTick_le.trans hlimit),
    accumulated_add_untilTick h]

theorem due_beginFrame_untilTick (hlast : c.last = some last) (h : c.accumulated < c.period)
    (hlimit : c.period ≤ c.longestFrame) : (c.beginFrame (last + c.untilTick)).due = 1 := by
  rw [due_beginFrame hlast, accumulated_add_min h hlimit, Nat.div_self c.period_pos]

theorem accumulated_drain_untilTick (hlast : c.last = some last) (h : c.accumulated < c.period)
    (hlimit : c.period ≤ c.longestFrame) :
    (c.beginFrame (last + c.untilTick)).drain.accumulated = 0 := by
  rw [accumulated_drain_beginFrame hlast, accumulated_add_min h hlimit, Nat.mod_self]

end Clock

namespace Session

variable {s : Session} {last : Instant}

/-- In a session that is playing the time until the next tick is never zero and no longer than a
period. A frame before that time is over runs no tick; one that comes just when it is over runs a
single tick and leaves nothing, also if frames are limited to less than a period. -/
theorem Reachable.untilTick_exact (hs : s.Reachable) (hlast : s.clock.last = some last) :
    let wait := s.clock.untilTick
    0 < wait ∧ wait ≤ s.settings.period ∧
      (∀ now, last ≤ now → now < last + wait →
        (s.advance now).1 = 0 ∧ (s.advance now).2.ticks = s.ticks) ∧
      (s.advance (last + wait)).1 = 1 ∧ (s.advance (last + wait)).2.ticks = s.ticks + 1 ∧
      (s.advance (last + wait)).2.clock.accumulated = 0 := by
  intro wait
  have hdrained := hs.accumulated_lt
  obtain ⟨hperiod, hframe⟩ := hs.limits
  have hlimit : s.clock.period ≤ s.clock.longestFrame := by
    rw [hperiod, hframe]
    exact Nat.le_max_right _ _
  have hcounts (now : Instant) : s.Counts (.advance now) (s.advance now).2 :=
    s.counts_after (.advance now)
  have hdue : (s.clock.beginFrame (last + wait)).due = 1 :=
    Clock.due_beginFrame_untilTick hlast hdrained hlimit
  refine ⟨Clock.untilTick_pos hdrained, hperiod ▸ s.clock.untilTick_le, ?_, hdue, ?_, ?_⟩
  · intro now hle hlt
    have hnone := Clock.due_beginFrame_of_lt hlast hdrained hle hlt
    refine ⟨hnone, ?_⟩
    rw [(hcounts now).ticks, ticksRun, hnone, Nat.add_zero]
  · rw [(hcounts _).ticks, ticksRun, hdue]
  · rw [(hcounts _).clock]
    exact Clock.accumulated_drain_untilTick hlast hdrained hlimit

/-- A session whose frames are limited to less than a period, and which has run for part of one. -/
def briefFrames : Session :=
  (ofSettings { longestFrameMs := 10 }).afterAll [.play 0, .advance (milliseconds 30)]

theorem Reachable.untilTick_exact_briefFrames :
    briefFrames.Reachable ∧ briefFrames.clock.last = some (milliseconds 30) ∧
      briefFrames.clock.untilTick = milliseconds 20 ∧
      (briefFrames.advance (milliseconds 50 - 1)).1 = 0 ∧
      (briefFrames.advance (milliseconds 50)).1 = 1 ∧
      (briefFrames.advance (milliseconds 50)).2.clock.accumulated = 0 := by
  have hreachable : briefFrames.Reachable := (Reachable.new _).afterAll _
  have hlast : briefFrames.clock.last = some (milliseconds 30) := by decide +kernel
  have hwait : briefFrames.clock.untilTick = milliseconds 20 := by decide +kernel
  obtain ⟨-, -, hearly, hdue, -, hleft⟩ := hreachable.untilTick_exact hlast
  rw [hwait] at hearly hdue hleft
  exact ⟨hreachable, hlast, hwait, (hearly _ (by decide) (by decide)).1, hdue, hleft⟩

end Session

end SpriteStage
