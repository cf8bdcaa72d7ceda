import SpriteStage.Proofs.EqualCores
import SpriteStage.Proofs.SessionInvariants
import SpriteStage.Proofs.TickAccounting

/-!
# Used and fresh sessions

A session can be made anew: with its settings, and with its sprites at their start poses with the
programs that they have now. A restart leaves a session with the core of the new one, so whatever is
done afterwards shows the same, and counts go on from where they were
(`Reachable.restart_forgets_the_past`). Playing does the same to a session and to the new one only
if no sprite is cooling down (`Reachable.play_starts_afresh`): a cooldown outlasts it
(`not_play_starts_afresh`).
-/

namespace SpriteStage

/-! ## Stopped clocks -/

/-- Stopped clocks are told apart by their settings only, their counts aside. -/
theorem Clock.core_stop_congr {c c' : Clock} (hperiod : c.period = c'.period)
    (hlongest : c.longestFrame = c'.longestFrame) : c.stop.core = c'.stop.core := by
  cases c
  cases c'
  cases hperiod
  cases hlongest
  rfl

theorem Clock.stop_ofPeriod (period : Duration) : (ofPeriod period).stop = ofPeriod period := by
  unfold ofPeriod
  split <;> rfl

theorem Session.stop_clock_ofSettings (settings : Settings) :
    (ofSettings settings).clock.stop = (ofSettings settings).clock := by
  have hstop := Clock.stop_ofPeriod settings.tickPeriod
  rw [clock_ofSettings]
  generalize Clock.ofPeriod settings.tickPeriod = clock at hstop ⊢
  exact congrArg (fun c => { c with longestFrame := max settings.longestFrame clock.period }) hstop

/-! ## Sessions made anew -/

/-- What is needed to add a sprite again, with its program as it is now. -/
def Sprite.spec (s : Sprite) : SpriteSpec where
  id := s.id
  name := s.name
  costume := s.costume
  start := s.actor.start
  program := s.program

theorem Sprite.core_restart {s : Sprite} {i : Increment} (h : s.flat = s.program.flatten i) :
    s.restart.core = .ofSpec i s.spec := by
  unfold Sprite.ofSpec
  rw [Sprite.spec, ← h]
  rfl

namespace Session

variable {s t : Session}

/-- A session that has never run, with the settings of a session and its sprites in their order,
each at its start pose and with its program as it is now. -/
def anew (s : Session) : Session :=
  (ofSettings s.settings).afterAll ((s.cast.sprites.map Sprite.spec).map .add)

/-- The session made anew, with the same sprite selected. -/
def anewSelected (s : Session) : Session :=
  match s.cast.selection? with
  | some sprite => s.anew.after (.select sprite.id)
  | none => s.anew

theorem exists_addAll {specs : List SpriteSpec} (h : (s.cast.ids ++ specs.map (·.id)).Nodup) :
    ∃ selected, s.afterAll (specs.map .add) = { s with cast := { s.cast with
      sprites := s.cast.sprites ++ specs.map (.ofSpec s.cast.increment)
      selected } } := by
  induction specs generalizing s with
  | nil =>
      have hsame : s.cast.sprites ++ [] = s.cast.sprites := List.append_nil _
      exact ⟨s.cast.selected, by rw [List.map_nil, List.map_nil, hsame]; rfl⟩
  | cons spec specs ih =>
      have hnew : spec.id ∉ s.cast.ids := fun hmem =>
        (List.nodup_append.1 h).2.2 _ hmem _ List.mem_cons_self rfl
      have hids : ((s.after (.add spec)).cast.ids ++ specs.map (·.id)).Nodup := by
        rw [after_add_of_notMem hnew]
        unfold Cast.ids at h ⊢
        rw [List.map_append, List.append_assoc]
        exact h
      -- Only the sprites are followed through; which of them gets selected is left open.
      obtain ⟨selected, hrest⟩ := ih hids
      refine ⟨selected, hrest.trans ?_⟩
      rw [after_add_of_notMem hnew]
      dsimp only
      rw [List.append_assoc]
      rfl

theorem Reachable.exists_anew (hs : s.Reachable) :
    ∃ selected, s.anew = { ofSettings s.settings with
      cast := {
        sprites := (s.cast.sprites.map Sprite.spec).map (.ofSpec s.cast.increment)
        selected
        increment := s.cast.increment } } := by
  have hids : (s.cast.sprites.map Sprite.spec).map (·.id) = s.cast.ids := by
    rw [List.map_map]
    rfl
  have hnodup : ((ofSettings s.settings).cast.ids ++
      (s.cast.sprites.map Sprite.spec).map (·.id)).Nodup := hids.symm ▸ hs.sound.nodup
  obtain ⟨selected, hadded⟩ := exists_addAll hnodup
  refine ⟨selected, hadded.trans ?_⟩
  rw [hs.increment_eq]
  rfl

/-- A session made anew has the core of the session restarted. -/
theorem Reachable.core_anew (hs : s.Reachable) : s.anew.core = s.restart.core := by
  obtain ⟨selected, hanew⟩ := hs.exists_anew
  rw [hanew]
  refine core_eq_of rfl (Cast.core_eq_of_sprites rfl ?_) hs.reset_monitor.symm rfl ?_ rfl
  · change ((s.cast.sprites.map Sprite.spec).map (Sprite.ofSpec _)).map (·.core) =
      (s.cast.sprites.map (·.restart)).map (·.core)
    rw [List.map_map, List.map_map, List.map_map]
    refine List.map_congr_left fun sprite hsprite => ?_
    have hcore := Sprite.core_restart (hs.isFlat sprite hsprite)
    exact (congrArg Sprite.core hcore).symm.trans sprite.restart.core_core
  · have hlimits := (Reachable.new s.settings).limits
    change (ofSettings s.settings).clock.core = s.clock.stop.core
    rw [← stop_clock_ofSettings]
    exact Clock.core_stop_congr (hlimits.1.trans hs.limits.1.symm)
      (hlimits.2.trans hs.limits.2.symm)

theorem Reachable.selected_anewSelected (hs : s.Reachable) :
    s.anewSelected.cast.selected = s.cast.selected := by
  have hids : s.anew.cast.ids = s.cast.ids :=
    (map_sprites_eq (fun _ => rfl) hs.core_anew).trans s.cast.ids_restartAll
  unfold anewSelected Cast.selection?
  obtain ⟨hnone, hempty⟩ | ⟨position, hposition, hlt⟩ := hs.isSelected
  · rw [hnone]
    unfold anew
    rw [hempty]
    rfl
  · have hsprite : s.cast.sprites[position]? = some s.cast.sprites[position] :=
      List.getElem?_eq_getElem hlt
    have hfound : s.cast.position? s.cast.sprites[position].id = some position := by
      rw [Cast.position?_eq_some_iff hs.sound.nodup, Cast.ids, List.getElem?_map, hsprite]
      rfl
    rw [hposition, Option.bind_some, hsprite]
    dsimp only
    rw [selected_after, selectedAfter, hids, ← Cast.position?_eq, hfound]
    rfl

/-! ## Restarting and playing -/

theorem Reachable.core_anewSelected (hs : s.Reachable) : s.anewSelected.core = s.restart.core := by
  have hselect (t : Session) (id : SpriteId) : (t.after (.select id)).core = t.core := by
    rw [after_select]
    split
    · rename_i h
      unfold Cast.select at h
      split at h <;> cases h
      exact core_eq_of rfl (Cast.core_eq_of_sprites rfl rfl) rfl rfl rfl rfl
    · rfl
  rw [← hs.core_anew]
  unfold anewSelected
  split
  · exact hselect _ _
  · rfl

theorem counts_clock_ofSettings (settings : Settings) :
    (ofSettings settings).clock.counts = (0, 0) := by
  have hlongest (c : Clock) (longestFrame : Duration) :
      ({ c with longestFrame } : Clock).counts = c.counts := rfl
  rw [clock_ofSettings, hlongest, Clock.counts_ofPeriod]

/-- A session made anew has run and counted nothing. -/
theorem Reachable.counts_anew (hs : s.Reachable) :
    s.anew.ticks = 0 ∧ s.anew.swaps = 0 ∧ s.anew.clock.counts = (0, 0) := by
  obtain ⟨selected, hanew⟩ := hs.exists_anew
  have hticks : (ofSettings s.settings).ticks = 0 := rfl
  have hswaps : (ofSettings s.settings).swaps = 0 := rfl
  have hcounts := counts_clock_ofSettings s.settings
  generalize ofSettings s.settings = t at hanew hticks hswaps hcounts
  rw [hanew]
  exact ⟨hticks, hswaps, hcounts⟩

theorem Reachable.counts_anewSelected (hs : s.Reachable) :
    s.anewSelected.ticks = 0 ∧ s.anewSelected.swaps = 0 ∧
      s.anewSelected.clock.counts = (0, 0) := by
  have hanew := hs.counts_anew
  unfold anewSelected
  split
  · rename_i sprite _
    have hselect := s.anew.counts_after (.select sprite.id)
    rw [hselect.ticks, hselect.swaps, hselect.clock]
    exact hanew
  · exact hanew

/-- A session that has been restarted shows the same as one made anew, whatever is done to it, and
what it has counted stays as far ahead as it was at the restart. Its clock is ahead as well until it
is started. -/
theorem Reachable.restart_forgets_the_past (hs : s.Reachable) (ops : List Operation) :
    let used := s.restart.afterAll ops
    let fresh := s.anewSelected.afterAll ops
    s.restart.outcomes ops = s.anewSelected.outcomes ops ∧
      used.core = fresh.core ∧
      used.cast.selected = fresh.cast.selected ∧
      used.ticks = s.ticks + fresh.ticks ∧
      used.swaps = s.swaps + fresh.swaps ∧
      (used.clock.counts = fresh.clock.counts ∨
        (∀ p, p <+: ops → (s.restart.afterAll p).isPlaying = false) ∧
          used.clock.counts = s.clock.counts ∧ fresh.clock.counts = (0, 0)) := by
  intro used fresh
  have hcore : s.restart.core = s.anewSelected.core := hs.core_anewSelected.symm
  have hselected : s.restart.cast.selected = s.anewSelected.cast.selected :=
    hs.selected_anewSelected.symm
  obtain ⟨hticks, hswaps, hclock⟩ := hs.counts_anewSelected
  obtain ⟨hticked, hswapped⟩ := counts_eq_of_core_eq hcore ops
  rw [hticks] at hticked
  rw [hswaps] at hswapped
  have hcounted := clock_counts_of_core_eq hcore rfl ops
  rw [hclock] at hcounted
  exact ⟨outcomes_eq_of_core_eq hcore ops, afterAll_eq_of_core_eq hcore ops,
    selected_eq_of_core_eq hcore hselected ops, hticked.trans (Nat.add_comm _ _),
    hswapped.trans (Nat.add_comm _ _), hcounted⟩

/-- Two sprites in the same place that have swapped their programs. -/
def exchanged : Session := together.after (.step 0)

theorem reachable_exchanged : exchanged.Reachable := reachable_together.after (.step 0)

theorem Reachable.restart_forgets_the_past_exchanged :
    exchanged.ticks = 1 ∧ exchanged.swaps = 1 ∧
      exchanged.restart.outcomes [.play 7, .step 7] =
        exchanged.anewSelected.outcomes [.play 7, .step 7] ∧
      (exchanged.restart.afterAll [.play 7, .step 7]).swaps =
        exchanged.swaps + (exchanged.anewSelected.afterAll [.play 7, .step 7]).swaps := by
  obtain ⟨houtcomes, -, -, -, hswaps, -⟩ :=
    reachable_exchanged.restart_forgets_the_past [.play 7, .step 7]
  exact ⟨by decide +kernel, by decide +kernel, houtcomes, hswaps⟩

/-- Playing leads to the core that it leads to after a restart, if there is no cooldown to
forget. -/
theorem core_play_eq (hcool : ∀ sprite ∈ s.cast.sprites, sprite.actor.cooldown = 0)
    (now : Instant) : (s.play now).core = (s.restart.play now).core := by
  refine core_eq_of rfl (Cast.core_eq_of_sprites rfl ?_) rfl rfl rfl rfl
  change (s.cast.sprites.map (·.arm .play)).map (·.core) =
    ((s.cast.sprites.map (·.restart)).map (·.arm .play)).map (·.core)
  rw [List.map_map, List.map_map, List.map_map]
  refine List.map_congr_left fun sprite hsprite => ?_
  have hcooldown := hcool sprite hsprite
  obtain ⟨_, _, _, _, _, ⟨_, _, _, _, _, cooldown⟩⟩ := sprite
  obtain rfl : cooldown = 0 := hcooldown
  rfl

/-- As long as no sprite is cooling down, playing starts a session afresh: it shows the same as one
made anew, and from then on counts as much. -/
theorem Reachable.play_starts_afresh (hs : s.Reachable)
    (hcool : ∀ sprite ∈ s.cast.sprites, sprite.actor.cooldown = 0) (now : Instant)
    (ops : List Operation) :
    let used := (s.play now).afterAll ops
    let fresh := (s.anew.play now).afterAll ops
    (s.play now).outcomes ops = (s.anew.play now).outcomes ops ∧
      used.core = fresh.core ∧
      used.ticks = s.ticks + fresh.ticks ∧
      used.swaps = s.swaps + fresh.swaps ∧
      used.clock.counts = fresh.clock.counts := by
  intro used fresh
  have hcore : (s.play now).core = (s.anew.play now).core :=
    (core_play_eq hcool now).trans (after_eq_of_core_eq hs.core_anew.symm (.play now))
  obtain ⟨hticks, hswaps, -⟩ := hs.counts_anew
  obtain ⟨hticked, hswapped⟩ := counts_eq_of_core_eq hcore ops
  have hnone : (s.anew.play now).ticks = 0 ∧ (s.anew.play now).swaps = 0 := ⟨hticks, hswaps⟩
  rw [hnone.1] at hticked
  rw [hnone.2] at hswapped
  exact ⟨outcomes_eq_of_core_eq hcore ops, afterAll_eq_of_core_eq hcore ops,
    hticked.trans (Nat.add_comm _ _), hswapped.trans (Nat.add_comm _ _),
    clock_counts_afterAll_congr hcore rfl ops⟩

theorem Reachable.play_starts_afresh_exchanged :
    exchanged.swaps = 1 ∧
      (exchanged.play 7).outcomes [.step 7, .stop] =
        (exchanged.anew.play 7).outcomes [.step 7, .stop] := by
  have hcool : ∀ sprite ∈ exchanged.cast.sprites, sprite.actor.cooldown = 0 := by decide +kernel
  exact ⟨by decide +kernel, (reachable_exchanged.play_starts_afresh hcool 7 [.step 7, .stop]).1⟩

/-- Two sprites in the same place that are cooling down from a swap. -/
def cooling : Session :=
  let spec (id : SpriteId) : SpriteSpec := { id, name := id, start := default }
  (ofSettings { swapCooldown := 5 }).afterAll
    [.add (spec "cat"), .add (spec "dog"), .play 0, .step 0]

/-- A cooldown from before a play keeps the first encounter after it from swapping. -/
theorem not_play_starts_afresh :
    ¬ ∀ s : Session, s.Reachable → ∀ now now',
      (s.play now).swapped (.step now') = (s.anew.play now).swapped (.step now') := by
  intro hfresh
  have hreachable : cooling.Reachable := (Reachable.new { swapCooldown := 5 }).afterAll _
  have hused : ((cooling.play 0).swapped (.step 0)).map List.length = [0] := by decide +kernel
  have hanew : ((cooling.anew.play 0).swapped (.step 0)).map List.length = [1] := by
    decide +kernel
  have hsame := hfresh cooling hreachable 0 0
  rw [hsame, hanew] at hused
  cases hused

end Session

end SpriteStage
