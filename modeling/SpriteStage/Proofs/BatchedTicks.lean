import SpriteStage.Proofs.HushedSessions

/-!
# Ticks in a batch

An advance runs its ticks first and clears bubbles once, at the end; steps clear them after every
tick. Both leave the same session but for its clock (`Reachable.advance_eq_steps`): all ticks happen
at one instant, so a bubble that is over after a tick is also over at the end, unless its sprite
speaks again before then. In that case it is replaced together with its deadline, whether it has
been cleared or not (`acted_expired`). Scans do not look at bubbles (`scan_expireBubbles`).
-/

namespace SpriteStage

namespace Sprite

theorem isBlind_clearedIn (ids : List SpriteId) : IsBlind (clearedIn ids) where
  stance s := by unfold clearedIn; split <;> rfl
  cooldown s := by unfold clearedIn; split <;> rfl
  program s := by unfold clearedIn; split <;> rfl
  activeTrigger s := by unfold clearedIn; split <;> rfl
  takeOver s i p cooldown := by
    unfold clearedIn
    rw [id_takeOver]
    split
    · exact isBlind_clearBubble.takeOver s i p cooldown
    · rfl

end Sprite

/-! ## Scans of a cast and of its projection -/

namespace Monitor

/-- A scan of a cast whose sprites are projected sees and swaps the same, and leaves what it leaves
of the cast with its sprites projected. -/
theorem coordinate_map_sprites {proj : Sprite → Sprite} (h : Sprite.IsBlind proj) (m : Monitor)
    (c : Cast) (cooldown : Nat) :
    m.coordinate { c with sprites := c.sprites.map proj } cooldown =
      ((m.coordinate c cooldown).1, (m.coordinate c cooldown).2.1,
        { (m.coordinate c cooldown).2.2 with
          sprites := (m.coordinate c cooldown).2.2.sprites.map proj }) := by
  have hid : Sprite.IsBlind id :=
    ⟨fun _ => rfl, fun _ => rfl, fun _ => rfl, fun _ => rfl, fun _ _ _ _ => rfl⟩
  let mapped : Cast := { c with sprites := c.sprites.map proj }
  have hmapped : mapped.project id = c.project proj :=
    congrArg (fun sprites => { c with sprites, selected := none }) (List.map_id _)
  have hselected : (m.coordinate mapped cooldown).2.2.selected =
      (m.coordinate c cooldown).2.2.selected := by
    rw [selected_coordinate, selected_coordinate]
  have hboth : project id (m.coordinate mapped cooldown) =
      project proj (m.coordinate c cooldown) := by
    rw [← coordinate_project hid, hmapped, coordinate_project h]
  generalize m.coordinate mapped cooldown = left at hselected hboth
  generalize m.coordinate c cooldown = right at hselected hboth ⊢
  obtain ⟨swapped, monitor, sprites, selected, increment⟩ := left
  obtain ⟨swapped', monitor', sprites', selected', increment'⟩ := right
  obtain rfl : selected = selected' := hselected
  simpa [project, Cast.project] using hboth

end Monitor

namespace Session

variable {s t : Session}

/-! ## Clearing bubbles that are over -/

theorem scan_expireBubbles (s : Session) (now : Instant) :
    (s.expireBubbles now).scan = s.scan.expireBubbles now := by
  have hcoordinate := s.monitor.coordinate_map_sprites
    (Sprite.isBlind_clearedIn (s.timers.expired now)) s.cast s.settings.swapCooldown
  rw [expireBubbles_eq, expireBubbles_eq]
  unfold scan
  dsimp only
  rw [hcoordinate]

theorem deadline?_act_expired (hs : s.cast.ids.Nodup) {sprite : Sprite}
    (hsprite : sprite ∈ s.cast.sprites) (now : Instant) :
    ((s.expireBubbles now).act now).timers.deadline? sprite.id =
      (sprite.newDeadline? now).or ((s.timers.deadline? sprite.id).filter (now < ·)) := by
  have hids : (s.expireBubbles now).cast.ids.Nodup := (ids_expireBubbles s now).symm ▸ hs
  have hcleared : sprite.clearedIn (s.timers.expired now) ∈ (s.expireBubbles now).cast.sprites := by
    rw [expireBubbles_eq]
    exact List.mem_map_of_mem hsprite
  have hdeadline := deadline?_act hids hcleared now
  rw [Sprite.id_clearedIn, Sprite.newDeadline?_clearedIn] at hdeadline
  rw [hdeadline, ← BubbleTimers.deadline?_dropExpired]
  rfl

/-- Once the deadlines that are over have been dropped, it does not matter that some were dropped
before the sprites acted. -/
theorem timers_acted_expired (hs : s.cast.ids.Nodup) (now : Instant) :
    ((s.expireBubbles now).act now).timers.dropExpired now =
      (s.act now).timers.dropExpired now := by
  refine BubbleTimers.ext_deadline? fun id => ?_
  rw [BubbleTimers.deadline?_dropExpired, BubbleTimers.deadline?_dropExpired]
  by_cases hid : id ∈ s.cast.ids
  · obtain ⟨sprite, hsprite, rfl⟩ := List.mem_map.1 hid
    rw [deadline?_act_expired hs hsprite, deadline?_act hs hsprite]
    cases sprite.newDeadline? now with
    | none => simp [Option.filter_filter]
    | some deadline => rfl
  · have hid' : id ∉ (s.expireBubbles now).cast.ids := (ids_expireBubbles s now).symm ▸ hid
    have hdropped := s.timers.deadline?_dropExpired now id
    rw [deadline?_act_of_notMem hid, deadline?_act_of_notMem hid']
    change ((s.timers.dropExpired now).deadline? id).filter _ = _
    rw [hdropped]
    simp [Option.filter_filter]

theorem mem_expired_act_iff (hs : s.cast.ids.Nodup) {sprite : Sprite}
    (hsprite : sprite ∈ s.cast.sprites) {now : Instant} (h : sprite.newDeadline? now = none) :
    sprite.id ∈ (s.act now).timers.expired now ↔ sprite.id ∈ s.timers.expired now := by
  rw [BubbleTimers.mem_expired, BubbleTimers.mem_expired, deadline?_act hs hsprite, h,
    Option.none_or]

theorem notMem_expired_act_expired (hs : s.cast.ids.Nodup) {sprite : Sprite}
    (hsprite : sprite ∈ s.cast.sprites) {now : Instant} (h : sprite.newDeadline? now = none) :
    sprite.id ∉ ((s.expireBubbles now).act now).timers.expired now := by
  refine BubbleTimers.notMem_expired fun deadline hdeadline => ?_
  rw [deadline?_act_expired hs hsprite, h, Option.none_or] at hdeadline
  exact of_decide_eq_true (Option.filter_eq_some_iff.1 hdeadline).2

theorem mem_expired_act_expired_iff (hs : s.cast.ids.Nodup) {sprite : Sprite}
    (hsprite : sprite ∈ s.cast.sprites) {now deadline : Instant}
    (h : sprite.newDeadline? now = some deadline) :
    sprite.id ∈ ((s.expireBubbles now).act now).timers.expired now ↔
      sprite.id ∈ (s.act now).timers.expired now := by
  rw [BubbleTimers.mem_expired, BubbleTimers.mem_expired, deadline?_act_expired hs hsprite,
    deadline?_act hs hsprite, h, Option.some_or, Option.some_or]

/-- A sprite that speaks loses the new bubble or keeps it, whatever became of the one before; any
other loses its bubble by the same deadline before it acts or afterwards. -/
theorem clearedIn_act_expired (hs : s.cast.ids.Nodup) {sprite : Sprite}
    (hsprite : sprite ∈ s.cast.sprites) (now : Instant) :
    (sprite.clearedIn (s.timers.expired now)).act.clearedIn
        (((s.expireBubbles now).act now).timers.expired now) =
      sprite.act.clearedIn ((s.act now).timers.expired now) := by
  have hact := sprite.act_clearedIn (s.timers.expired now) now
  cases hspeaks : sprite.newDeadline? now with
  | some deadline =>
      rw [hspeaks, Option.isSome_some, if_pos rfl] at hact
      rw [hact]
      exact if_congr (mem_expired_act_expired_iff hs hsprite hspeaks) rfl rfl
  | none =>
      have hkept : (sprite.act.clearedIn (s.timers.expired now)).id ∉
          ((s.expireBubbles now).act now).timers.expired now := by
        rw [Sprite.id_clearedIn]
        exact notMem_expired_act_expired hs hsprite hspeaks
      rw [hspeaks, Option.isSome_none, if_neg Bool.false_ne_true] at hact
      rw [hact, Sprite.clearedIn_of_notMem hkept]
      exact if_congr (mem_expired_act_iff hs hsprite hspeaks).symm rfl rfl

theorem expireBubbles_acted (s : Session) (now : Instant) :
    (s.acted now).expireBubbles now = { s with
      cast := { s.cast with
        sprites := (s.cast.sprites.map (·.act)).map
          (Sprite.clearedIn ((s.act now).timers.expired now)) }
      timers := (s.act now).timers.dropExpired now
      ticks := s.ticks + 1
      sinceScan := s.sinceScan + 1 } := by
  have hcast : (s.act now).cast =
      { s.cast with sprites := s.cast.sprites.map (·.act) } := s.cast_act now
  rw [expireBubbles_eq]
  unfold acted
  dsimp only
  rw [hcast]
  rfl

/-- Bubbles that are over may be cleared before the sprites act, if they are cleared again
afterwards. -/
theorem acted_expired (hs : s.cast.ids.Nodup) (now : Instant) :
    ((s.expireBubbles now).acted now).expireBubbles now = (s.acted now).expireBubbles now := by
  have hsprites : ((s.expireBubbles now).cast.sprites.map (·.act)).map
        (Sprite.clearedIn (((s.expireBubbles now).act now).timers.expired now)) =
      (s.cast.sprites.map (·.act)).map (Sprite.clearedIn ((s.act now).timers.expired now)) := by
    rw [cast_expireBubbles, List.map_map, List.map_map, List.map_map]
    exact List.map_congr_left fun sprite hsprite => clearedIn_act_expired hs hsprite now
  rw [expireBubbles_acted, expireBubbles_acted, timers_acted_expired hs, hsprites]
  rw [cast_expireBubbles]
  rfl

theorem tick_expired (hs : s.cast.ids.Nodup) (now : Instant) :
    ((s.expireBubbles now).tick now).expireBubbles now = (s.tick now).expireBubbles now := by
  have hacted := acted_expired hs now
  have hdue : ((s.expireBubbles now).tick now) =
      if max s.settings.scanEvery 1 ≤ s.sinceScan + 1 then ((s.expireBubbles now).acted now).scan
      else (s.expireBubbles now).acted now := rfl
  rw [hdue, tick_eq]
  split
  · rw [← scan_expireBubbles, hacted, scan_expireBubbles]
  · exact hacted

/-! ## Ticks at one instant -/

/-- Sessions that are equal once the bubbles that are over have been cleared stay so over ticks. -/
theorem tickTimes_congr_expired (hs : s.Sound) (ht : t.Sound) {now : Instant}
    (h : s.expireBubbles now = t.expireBubbles now) (count : Nat) :
    (s.tickTimes now count).expireBubbles now = (t.tickTimes now count).expireBubbles now := by
  induction count generalizing s t with
  | zero => exact h
  | succ count ih =>
      refine ih (hs.tick now) (ht.tick now) ?_
      rw [← tick_expired hs.nodup, h, tick_expired ht.nodup]

/-- Steps at one instant are as good as their ticks in a batch. -/
theorem afterAll_steps (hs : s.Sound) (now : Instant) (count : Nat) :
    s.afterAll (List.replicate (count + 1) (.step now)) =
      (s.tickTimes now (count + 1)).expireBubbles now := by
  induction count generalizing s with
  | zero => rfl
  | succ count ih =>
      have hstep : (s.step now).Sound := (hs.tick now).expireBubbles now
      have hnext := tick_expired (hs.tick now).nodup now
      change (s.step now).afterAll (List.replicate (count + 1) (.step now)) = _
      -- The first step has cleared bubbles before the ticks of the others; the batch has not.
      rw [ih hstep]
      exact tickTimes_congr_expired (hstep.tick now) ((hs.tick now).tick now) hnext count

theorem tick_withClock (s : Session) (clock : Clock) (now : Instant) :
    { s with clock }.tick now = { s.tick now with clock } := by
  rw [tick_eq, tick_eq]
  dsimp only
  split <;> rfl

theorem tickTimes_withClock (s : Session) (clock : Clock) (now : Instant) (count : Nat) :
    { s with clock }.tickTimes now count = { s.tickTimes now count with clock } := by
  induction count generalizing s with
  | zero => rfl
  | succ count ih => rw [tickTimes, tick_withClock, ih, tickTimes]

/-- An advance that runs ticks leaves what as many steps at its instant leave, but for the clock,
which steps do not touch. -/
theorem Reachable.advance_eq_steps (hs : s.Reachable) (now : Instant)
    (hran : 1 ≤ (s.advance now).1) :
    let stepped := s.afterAll (List.replicate (s.advance now).1 (.step now))
    (s.advance now).2 = { stepped with clock := (s.clock.beginFrame now).drain } ∧
      stepped.clock = s.clock := by
  obtain ⟨count, hcount⟩ := Nat.exists_eq_add_of_le' hran
  have hsteps := afterAll_steps hs.sound now count
  have hadvance : (s.advance now).2 =
      ((s.fed now).tickTimes now (s.advance now).1).expireBubbles now := rfl
  have hfed := s.tickTimes_withClock (s.clock.beginFrame now).drain now (count + 1)
  intro stepped
  have hstepped : stepped = (s.tickTimes now (count + 1)).expireBubbles now := by
    rw [← hsteps, ← hcount]
  rw [hstepped, hadvance, hcount]
  refine ⟨?_, s.clock_tickTimes now (count + 1)⟩
  unfold fed
  rw [hfed]
  rfl

/-- Two sprites of which one speaks twice in a row, first for no time at all. -/
def talking : Session :=
  let spec (id : SpriteId) (play : List Block) : SpriteSpec :=
    { id, name := id, start := default, program := { play } }
  (ofSettings {}).afterAll
    [.add (spec "cat" [.speak .say "Hi" 0, .speak .think "Hm" 2]),
      .add (spec "dog" [.speak .say "Ho" 0]), .play 0]

theorem reachable_talking : talking.Reachable := (Reachable.new {}).afterAll _

theorem Reachable.advance_eq_steps_talking :
    let now := milliseconds 120
    (talking.advance now).1 = 2 ∧
      (talking.advance now).2 = { (talking.step now).step now with
        clock := (talking.clock.beginFrame now).drain } := by
  intro now
  have hran : (talking.advance now).1 = 2 := by decide +kernel
  obtain ⟨hsame, -⟩ := reachable_talking.advance_eq_steps now (by rw [hran]; decide)
  rw [hran] at hsame
  exact ⟨hran, hsame⟩

end Session

end SpriteStage
