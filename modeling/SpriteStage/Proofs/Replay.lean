import SpriteStage.Proofs.HushedSessions
import SpriteStage.Proofs.ScriptedClicks

/-!
# Scripts replayed tick by tick

A replay runs a session one tick at a time, with clicks right after each tick. A playback runs all
ticks of a frame before it passes their clicks. So it stands where the replay stands that holds back
the clicks of a frame to its last tick, and where the replay of the script as written stands if its
clicks are all for last ticks of frames (`stands_as_replayed`). If they are not, the two can differ
(`not_stands_as_written`).
-/

namespace SpriteStage

/-! ## Standings -/

/-- How a sprite stands: all that its actor shows but the bubble, with its cooldown and program. -/
structure Standing where
  id : SpriteId
  pose : Pose
  trigger : Option Trigger
  index : Int
  cooldown : Nat
  program : Program

def Sprite.standing (s : Sprite) : Standing where
  id := s.id
  pose := s.actor.pose
  trigger := s.actor.trigger?
  index := s.actor.index
  cooldown := s.actor.cooldown
  program := s.program

namespace Session

variable {s t : Session}

def standings (s : Session) : List Standing := s.cast.sprites.map (·.standing)

theorem standings_congr (h : s.hushed = t.hushed) : s.standings = t.standings := by
  have hkept (s : Session) : s.hushed.standings = s.standings := by
    unfold standings Session.hushed Cast.project
    rw [List.map_map]
    rfl
  rw [← hkept s, h, hkept t]

/-! ## Replays -/

/-- Plays a session and runs it tick by tick; each tick has a time, and clicks that follow it. -/
def replay (s : Session) (clicks : Nat → List SpriteId) (time : Nat → Instant) : Nat → Session
  | 0 => (s.play (time 0)).clickAll (time 0) (clicks 0)
  | tick + 1 =>
    ((s.replay clicks time tick).step (time (tick + 1))).clickAll (time (tick + 1))
      (clicks (tick + 1))

variable {clicks clicks' : Nat → List SpriteId} {time : Nat → Instant} {tick : Nat}

theorem replay_congr (h : ∀ i ≤ tick, clicks i = clicks' i) :
    s.replay clicks time tick = s.replay clicks' time tick := by
  induction tick with
  | zero => rw [replay, replay, h 0 le_rfl]
  | succ tick ih =>
      rw [replay, replay, ih fun i hi => h i (Nat.le_succ_of_le hi), h (tick + 1) le_rfl]

/-- Ticks in a row lead as far as a replay without clicks after all but the last of them. -/
theorem replay_tickTimes (h : t.hushed = (s.replay clicks time tick).hushed) {count : Nat}
    (hnone : ∀ i, tick < i → i ≤ tick + count → clicks i = []) (now : Instant) :
    ((t.tickTimes now (count + 1)).clickAll now (clicks (tick + count + 1))).hushed =
      (s.replay clicks time (tick + count + 1)).hushed := by
  induction count generalizing t tick with
  | zero =>
      refine clickAll_congr ?_ now _ _
      exact (tick_congr h now _).trans (step_hushed _ _).symm
  | succ count ih =>
      have hnext : (t.tick now).hushed = (s.replay clicks time (tick + 1)).hushed := by
        rw [replay, hnone (tick + 1) (by omega) (by omega)]
        exact (tick_congr h now _).trans (step_hushed _ _).symm
      have hrest := ih hnext fun i hlow hhigh => hnone i (by omega) (by omega)
      rw [Nat.add_right_comm tick 1 count] at hrest
      exact hrest

end Session

/-! ## Held clicks -/

namespace Scene

variable {scene : Scene} {ends : List Nat} {tick : Nat}

/-- The clicks that follow a tick if every click is held back to the first of some ticks that is
not before its own: none if the tick is not one of these, and else those of all ticks up to it that
are after every earlier one of these. -/
def clicksHeld (scene : Scene) (ends : List Nat) (tick : Nat) : List SpriteId :=
  if tick ∈ ends then
    ((List.range (tick + 1)).filter fun t => ends.all fun e => e < t || tick ≤ e).flatMap
      scene.clicksAt
  else
    []

theorem clicksHeld_zero (h : 0 ∈ ends) : scene.clicksHeld ends 0 = scene.clicksAt 0 := by
  unfold clicksHeld
  rw [if_pos h]
  simp

theorem clicksHeld_of_between {count : Nat} (hfirst : tick ∈ ends) (hlast : tick + count ∈ ends)
    (hnone : ∀ e ∈ ends, tick < e → tick + count ≤ e) (hcount : 0 < count) :
    scene.clicksHeld ends (tick + count) =
      (scene.entriesFrom (tick + 1) count).map (·.sprite) := by
  let isHeld (t : Nat) : Bool := ends.all fun e => e < t || tick + count ≤ e
  have hearlier : (List.range' 0 (tick + 1)).filter isHeld = [] := by
    refine List.filter_eq_nil_iff.2 fun t ht hheld => ?_
    have hpassed := List.all_eq_true.1 hheld tick hfirst
    simp only [List.mem_range'_1, Bool.or_eq_true, decide_eq_true_eq] at ht hpassed
    omega
  have hlater : (List.range' (tick + 1) count).filter isHeld = List.range' (tick + 1) count := by
    refine List.filter_eq_self.2 fun t ht => List.all_eq_true.2 fun e he => ?_
    have hsplit := hnone e he
    simp only [List.mem_range'_1, Bool.or_eq_true, decide_eq_true_eq] at ht ⊢
    omega
  have hrange : List.range (tick + count + 1) =
      List.range' 0 (tick + 1) ++ List.range' (tick + 1) count := by
    rw [List.range_eq_range', Nat.add_right_comm, ← List.range'_append_1, Nat.zero_add]
  unfold clicksHeld entriesFrom
  rw [if_pos hlast, hrange, List.filter_append, hearlier, hlater, List.map_flatMap]
  rfl

theorem clicksAt_eq_nil (h : ∀ click ∈ scene.clicks, click.atTick ≠ tick) :
    scene.clicksAt tick = [] := by
  unfold clicksAt
  rw [List.map_eq_nil_iff, List.filter_eq_nil_iff]
  exact fun click hclick hsame => h click hclick (eq_of_beq hsame)

/-- Nothing is held back if all ticks with clicks are among those that clicks are held to. -/
theorem clicksHeld_eq_clicksAt {last : Nat}
    (h : ∀ click ∈ scene.clicks, click.atTick ≤ last → click.atTick ∈ ends) (htick : tick ≤ last) :
    scene.clicksHeld ends tick = scene.clicksAt tick := by
  have hothers {t : Nat} (ht : t ≤ last) (hmem : t ∉ ends) : scene.clicksAt t = [] :=
    clicksAt_eq_nil fun click hclick hsame => hmem (hsame ▸ h click hclick (hsame ▸ ht))
  unfold clicksHeld
  split
  · rename_i hend
    let isHeld (t : Nat) : Bool := ends.all fun e => e < t || tick ≤ e
    have hself : isHeld tick := List.all_eq_true.2 fun e _ => by
      simp only [Bool.or_eq_true, decide_eq_true_eq]
      omega
    have hearlier : ((List.range tick).filter isHeld).flatMap scene.clicksAt = [] := by
      refine List.flatMap_eq_nil_iff.2 fun t ht => ?_
      obtain ⟨hlow, hheld⟩ := List.mem_filter.1 ht
      have hlt : t < tick := List.mem_range.1 hlow
      refine hothers (by omega) fun hmem => ?_
      have hpassed := List.all_eq_true.1 hheld t hmem
      simp only [Bool.or_eq_true, decide_eq_true_eq] at hpassed
      omega
    change ((List.range (tick + 1)).filter isHeld).flatMap scene.clicksAt = _
    rw [List.range_succ, List.filter_append, List.flatMap_append, hearlier]
    simp [hself]
  · rename_i hend
    exact (hothers htick hend).symm

end Scene

/-! ## Playbacks -/

namespace Playback

variable {p : Playback} {f : Frame} {frames : List Frame}

theorem mem_tickCounts_self (p : Playback) (frames : List Frame) :
    p.session.ticks ∈ p.tickCounts frames := by
  cases frames <;> exact List.mem_cons_self

theorem le_of_mem_tickCounts (hp : p.IsCaughtUp) (h : p.NeverReloads frames) {e : Nat}
    (he : e ∈ p.tickCounts frames) : p.session.ticks ≤ e := by
  induction frames generalizing p with
  | nil => exact (List.mem_singleton.1 he).ge
  | cons f frames ih =>
      obtain ⟨hnone, hrest⟩ := h
      obtain rfl | he := List.mem_cons.1 he
      · exact le_rfl
      · have hlater := ih (isCaughtUp_after hp hnone) hrest he
        rw [ticks_after hp hnone] at hlater
        omega

variable {s : Session} {time : Nat → Instant} {ends : List Nat}

/-- A frame leads where the replay does that holds back its clicks, if its ticks are between two of
those that clicks are held to. -/
theorem replay_after (hp : p.IsCaughtUp) (h : p.reloaded? f = none)
    (hsame : p.session.hushed =
      (s.replay (p.scene.clicksHeld ends) time p.session.ticks).hushed)
    (hfirst : p.session.ticks ∈ ends) (hlast : (p.after f).session.ticks ∈ ends)
    (hnone : ∀ e ∈ ends, p.session.ticks < e → (p.after f).session.ticks ≤ e) :
    (p.after f).session.hushed =
      (s.replay (p.scene.clicksHeld ends) time (p.after f).session.ticks).hushed := by
  rw [ticks_after hp h] at hlast hnone ⊢
  have hafter : (p.after f).session.hushed =
      ((p.session.tickTimes f.now (p.session.advance f.now).1).clickAll f.now
        ((p.passed f.now).map (·.sprite))).hushed := by
    rw [after_of_none hp h]
    exact Session.clickAll_congr (p.session.advance_hushed f.now) f.now f.now _
  rw [hafter]
  unfold passed
  generalize (p.session.advance f.now).1 = ran at hlast hnone ⊢
  cases ran with
  | zero => exact hsame
  | succ count =>
      rw [← Scene.clicksHeld_of_between hfirst hlast hnone count.succ_pos]
      refine Session.replay_tickTimes hsame (fun i hlow hhigh => if_neg fun hmem => ?_) f.now
      have hsplit := hnone i hmem hlow
      omega

/-- So do frames, if the ticks that clicks are held to go on as those at their ends. -/
theorem replay_afterAll (hp : p.IsCaughtUp) (h : p.NeverReloads frames)
    (hsame : p.session.hushed =
      (s.replay (p.scene.clicksHeld ends) time p.session.ticks).hushed)
    (hends : ∀ e ∈ p.tickCounts frames, e ∈ ends)
    (hlater : ∀ e ∈ ends, p.session.ticks ≤ e → e ∈ p.tickCounts frames) :
    (p.afterAll frames).session.hushed =
      (s.replay (p.scene.clicksHeld ends) time (p.afterAll frames).session.ticks).hushed := by
  induction frames generalizing p with
  | nil => exact hsame
  | cons f frames ih =>
      obtain ⟨hnone, hrest⟩ := h
      have hcaught := isCaughtUp_after hp hnone
      have hmem : (p.after f).session.ticks ∈ (p.after f).tickCounts frames :=
        mem_tickCounts_self _ _
      have hfirst : p.session.ticks ∈ ends := hends _ List.mem_cons_self
      have hlast : (p.after f).session.ticks ∈ ends := hends _ (List.mem_cons_of_mem _ hmem)
      -- Ticks that clicks are held to come at the ends of later frames, none while this one runs.
      have hbetween (e : Nat) (he : e ∈ ends) (hlt : p.session.ticks < e) :
          e ∈ (p.after f).tickCounts frames :=
        (List.mem_cons.1 (hlater e he hlt.le)).resolve_left hlt.ne'
      have hafter := replay_after hp hnone hsame hfirst hlast fun e he hlt =>
        le_of_mem_tickCounts hcaught hrest (hbetween e he hlt)
      rw [← scene_after hp hnone] at hafter ⊢
      refine ih hcaught hrest hafter (fun e he => hends e (List.mem_cons_of_mem _ he)) ?_
      intro e he hle
      have hticks := ticks_after hp hnone
      by_cases hlt : p.session.ticks < e
      · exact hbetween e he hlt
      · obtain rfl : e = (p.after f).session.ticks := by omega
        exact hmem

/-- A playback that is loaded and played, and takes up no other scene, stands after any frames where
the replay stands that holds back the clicks of every frame to its last tick. If all ticks with
clicks, as far as the playback has come, are last ticks of frames, that is the replay of the script
as written. The times of a replay do not matter. -/
theorem stands_as_replayed {path : String} {file : FileState} {freshId : Nat → SpriteId}
    (hload : load path file freshId = .ok p) (began : Instant)
    (hkept : (p.play began).1.NeverReloads frames) (time : Nat → Instant) :
    let start := (p.play began).1
    let ended := (start.afterAll frames).session
    let ends := start.tickCounts frames
    ended.standings = (p.session.replay (p.scene.clicksHeld ends) time ended.ticks).standings ∧
      ((∀ click ∈ p.scene.clicks, click.atTick ≤ ended.ticks → click.atTick ∈ ends) →
        ended.standings = (p.session.replay p.scene.clicksAt time ended.ticks).standings) := by
  intro start ended ends
  obtain ⟨hcaught, hticks⟩ := isCaughtUp_play (ticks_of_load hload) began
  have hscene : start.scene = p.scene := scene_play p began
  have hzero : 0 ∈ ends := hticks ▸ mem_tickCounts_self start frames
  have hsame : start.session.hushed =
      (p.session.replay (start.scene.clicksHeld ends) time start.session.ticks).hushed := by
    rw [hticks, hscene, Session.replay, Scene.clicksHeld_zero hzero]
    unfold start
    rw [session_play]
    exact Session.clickAll_congr (p.session.play_hushed began (time 0)) began (time 0) _
  have hended := replay_afterAll hcaught hkept hsame (fun _ he => he) (fun _ he _ => he)
  rw [hscene] at hended
  refine ⟨Session.standings_congr hended, fun hwritten => ?_⟩
  rw [← Session.replay_congr fun i hi => Scene.clicksHeld_eq_clicksAt hwritten hi]
  exact Session.standings_congr hended

/-- Frames that run one tick each. -/
theorem stands_as_replayed_turning :
    let start := (turning.play 0).1
    let frames := [turningFrame 50_000_000, turningFrame 100_000_000]
    load "turning.json" turningFile (fun _ => "") = .ok turning ∧ start.NeverReloads frames ∧
      (start.afterAll frames).session.ticks = 2 ∧
      (start.afterAll frames).session.standings =
        (turning.session.replay turning.scene.clicksAt (fun _ => 0) 2).standings := by
  intro start frames
  have hkept : start.NeverReloads frames := neverReloads_of_load load_turning 0 frames
  have hticks : (start.afterAll frames).session.ticks = 2 := by decide +kernel
  refine ⟨load_turning, hkept, hticks, ?_⟩
  obtain ⟨-, hwritten⟩ := stands_as_replayed load_turning 0 hkept fun _ => 0
  rw [hticks] at hwritten
  exact hwritten (by decide +kernel)

/-- In one frame that runs two ticks, the cat does not turn in the second, as the click on it after
the first has yet to be passed. -/
theorem not_stands_as_written :
    ¬ ∀ (path : String) (file : FileState) (freshId : Nat → SpriteId) (p : Playback)
      (began : Instant) (frames : List Frame) (time : Nat → Instant),
      load path file freshId = .ok p → (p.play began).1.NeverReloads frames →
        let ended := ((p.play began).1.afterAll frames).session
        ended.standings = (p.session.replay p.scene.clicksAt time ended.ticks).standings := by
  intro h
  let frames := [turningFrame 100_000_000]
  have hsame := h "turning.json" turningFile (fun _ => "") turning 0 frames (fun _ => 0)
    load_turning (neverReloads_of_load load_turning 0 frames)
  have hindices := congrArg (List.map (·.index)) hsame
  revert hindices
  decide +kernel

end Playback

end SpriteStage
