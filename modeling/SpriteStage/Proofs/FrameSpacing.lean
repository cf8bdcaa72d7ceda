import SpriteStage.Proofs.BatchedTicks
import SpriteStage.Proofs.EqualCores
import SpriteStage.Proofs.TickAccounting

/-!
# The spacing of frames

Ticks do the same whenever they happen, bubbles aside, so frames leave what the ticks that they run
leave (`afterAll_advances_hushed`). How many ticks that is depends only on the time between the last
frame before them and the last of them, as long as none is so late that it is capped. So up to one
instant all spacings of frames lead to the same session but for bubbles
(`Reachable.frame_spacing_leaves_no_trace`).
-/

namespace SpriteStage

/-- Frames go on from an instant, none of them going back or more than the longest frame after the
one before. -/
def Clock.Paced (longest : Duration) (last : Instant) (frames : List Instant) : Prop :=
  (last :: frames).IsChain fun t t' => t ≤ t' ∧ t' - t ≤ longest

namespace Session

variable {s : Session} {frames frames' : List Instant} {last ended : Instant}

theorem tickTimes_add (s : Session) (now : Instant) (count count' : Nat) :
    s.tickTimes now (count + count') = (s.tickTimes now count).tickTimes now count' := by
  induction count generalizing s with
  | zero => rw [Nat.zero_add, tickTimes]
  | succ count ih => rw [Nat.succ_add, tickTimes, ih, tickTimes]

/-! ## The ticks of frames -/

/-- Frames leave what so many ticks leave, at whatever time. -/
theorem afterAll_advances_hushed (s : Session) (frames : List Instant) (now : Instant) :
    (s.afterAll (frames.map .advance)).hushed =
      (s.tickTimes now (s.ticksReturnedAll (frames.map .advance))).hushed := by
  induction frames generalizing s with
  | nil => rfl
  | cons frame frames ih =>
      let count := (s.advance frame).1
      have hfirst : (s.advance frame).2.hushed = (s.tickTimes now count).hushed :=
        (s.advance_hushed frame).trans (tickTimes_congr rfl frame now count)
      have hrest := tickTimes_congr hfirst now now
        ((s.advance frame).2.ticksReturnedAll (frames.map .advance))
      rw [List.map_cons, ticksReturnedAll, ticksReturned_advance, tickTimes_add]
      exact (ih (s.advance frame).2).trans hrest

theorem clock_ticks_advances (s : Session) (frames : List Instant) :
    (s.afterAll (frames.map .advance)).clock.ticks =
      s.clock.ticks + s.ticksReturnedAll (frames.map .advance) := by
  induction frames generalizing s with
  | nil => rfl
  | cons frame frames ih =>
      have hcounts := congrArg Prod.fst (s.clock.counts_drain_beginFrame frame)
      have hticks : (s.after (.advance frame)).clock.ticks =
          s.clock.ticks + s.ticksReturned (.advance frame) := by
        rw [clock_after_advance]
        exact hcounts
      rw [List.map_cons, ticksReturnedAll, ← Nat.add_assoc, ← hticks]
      exact ih (s.after (.advance frame))

/-- Paced frames run a tick for each whole period from the last tick before them to their end. -/
theorem Reachable.ticks_of_paced (hs : s.Reachable) (hlast : s.clock.last = some last)
    (hpaced : Clock.Paced s.clock.longestFrame last frames) (hend : frames.getLast? = some ended) :
    let time := s.clock.accumulated + (ended - last)
    s.ticksReturnedAll (frames.map .advance) = time / s.clock.period ∧
      (s.afterAll (frames.map .advance)).clock.accumulated = time % s.clock.period := by
  intro time
  have hops : ∀ op ∈ frames.map Operation.advance, op.setsClock = false := by
    intro op hop
    obtain ⟨frame, -, rfl⟩ := List.mem_map.1 hop
    rfl
  have hinstants : (frames.map Operation.advance).filterMap Operation.frame? = frames := by
    rw [List.filterMap_map]
    exact List.filterMap_some
  have hrun : s.clock.HasRun 0 s.clock.accumulated :=
    ⟨(Nat.div_eq_of_lt hs.accumulated_lt).symm, (Nat.mod_eq_of_lt hs.accumulated_lt).symm⟩
  have hfed := (Clock.fed_of_isChain hpaced).2
  rw [List.getLastD_eq_getLast?, hend, Option.getD_some] at hfed
  have hperiod : (s.afterAll (frames.map .advance)).clock.period = s.clock.period := by
    have hsettings := s.settings_afterAll (frames.map .advance)
    rw [(hs.afterAll (frames.map .advance)).limits.1, hsettings, hs.limits.1]
  obtain ⟨-, hran⟩ := hasRun_afterAll hlast hrun hops
  rw [hinstants, hfed, Nat.zero_add] at hran
  exact ⟨hperiod ▸ hran.ticks, hperiod ▸ hran.accumulated⟩

/-! ## What frames leave -/

/-- Frames that end at the same instant, none of them capped, leave the same counts, the same time
on the clock, the same contacts, and the same sprites but for bubbles. -/
theorem Reachable.frame_spacing_leaves_no_trace (hs : s.Reachable)
    (hlast : s.clock.last = some last) (hpaced : Clock.Paced s.clock.longestFrame last frames)
    (hpaced' : Clock.Paced s.clock.longestFrame last frames') (hend : frames.getLast? = some ended)
    (hend' : frames'.getLast? = some ended) :
    let left := s.afterAll (frames.map .advance)
    let right := s.afterAll (frames'.map .advance)
    left.ticks = right.ticks ∧ left.clock.ticks = right.clock.ticks ∧
      left.clock.accumulated = right.clock.accumulated ∧ left.sinceScan = right.sinceScan ∧
      left.swaps = right.swaps ∧ left.monitor = right.monitor ∧
      left.cast.sprites.map (·.clearBubble) = right.cast.sprites.map (·.clearBubble) := by
  intro left right
  obtain ⟨hcount, hkept⟩ := hs.ticks_of_paced hlast hpaced hend
  obtain ⟨hcount', hkept'⟩ := hs.ticks_of_paced hlast hpaced' hend'
  have hsame : left.hushed = right.hushed := by
    have hleft := s.afterAll_advances_hushed frames ended
    have hright := s.afterAll_advances_hushed frames' ended
    rw [hcount] at hleft
    rw [hcount'] at hright
    exact hleft.trans hright.symm
  refine ⟨congrArg (·.ticks) hsame, ?_, hkept.trans hkept'.symm, congrArg (·.sinceScan) hsame,
    congrArg (·.swaps) hsame, congrArg (·.monitor) hsame, congrArg (·.cast.sprites) hsame⟩
  have hticks := s.clock_ticks_advances frames
  have hticks' := s.clock_ticks_advances frames'
  rw [hcount] at hticks
  rw [hcount'] at hticks'
  exact hticks.trans hticks'.symm

/-- The same two ticks in three frames and in one. -/
theorem Reachable.frame_spacing_leaves_no_trace_talking :
    let frames := [milliseconds 30, milliseconds 60, milliseconds 100]
    let left := talking.afterAll (frames.map .advance)
    let right := talking.afterAll [.advance (milliseconds 100)]
    left.ticks = 2 ∧ left.swaps = 1 ∧ right.ticks = 2 ∧ right.swaps = 1 ∧
      left.cast.sprites.map (·.clearBubble) = right.cast.sprites.map (·.clearBubble) := by
  intro frames left right
  have hlast : talking.clock.last = some 0 := rfl
  have hlongest : talking.clock.longestFrame = milliseconds 250 := by decide +kernel
  have hpaced : Clock.Paced talking.clock.longestFrame 0 frames := by
    rw [hlongest]
    unfold Clock.Paced
    decide
  have hpaced' : Clock.Paced talking.clock.longestFrame 0 [milliseconds 100] := by
    rw [hlongest]
    unfold Clock.Paced
    decide
  obtain ⟨hticks, -, -, -, hswaps, -, hsprites⟩ :=
    reachable_talking.frame_spacing_leaves_no_trace hlast hpaced hpaced' rfl rfl
  have hcounts : left.ticks = 2 ∧ left.swaps = 1 := by decide +kernel
  exact ⟨hcounts.1, hcounts.2, hticks.symm.trans hcounts.1, hswaps.symm.trans hcounts.2, hsprites⟩

end Session

end SpriteStage
