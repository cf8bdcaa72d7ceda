import SpriteStage.Proofs.HotReload

/-!
# Scripted clicks

Playing passes the entries of tick 0 to the session, and each frame those of the ticks that it has
run: their sprites are clicked, one after the other. However many ticks run in a frame, every entry
is passed once, in the first frame at whose end its tick has run, and the entries come in the order
of their ticks (`delivers_each_click_once`).
-/

namespace SpriteStage

/-! ## Scripts -/

namespace Scene

theorem mem_entriesFrom {scene : Scene} {tick count : Nat} {click : ScriptedClick} :
    click ∈ scene.entriesFrom tick count ↔
      click ∈ scene.clicks ∧ tick ≤ click.atTick ∧ click.atTick < tick + count := by
  unfold entriesFrom entriesAt
  simp only [List.mem_flatMap, List.mem_range'_1, List.mem_filter, beq_iff_eq]
  constructor
  · rintro ⟨t, ⟨hlow, hhigh⟩, hclick, rfl⟩
    exact ⟨hclick, hlow, hhigh⟩
  · rintro ⟨hclick, hlow, hhigh⟩
    exact ⟨click.atTick, ⟨hlow, hhigh⟩, hclick, rfl⟩

theorem entriesFrom_add (scene : Scene) (tick count count' : Nat) :
    scene.entriesFrom tick (count + count') =
      scene.entriesFrom tick count ++ scene.entriesFrom (tick + count) count' := by
  unfold entriesFrom
  rw [← List.flatMap_append, List.range'_append_1]

theorem filter_entriesAt (scene : Scene) (tick t : Nat) :
    (scene.entriesAt tick).filter (·.atTick == t) =
      if t = tick then scene.entriesAt t else [] := by
  unfold entriesAt
  rw [List.filter_filter]
  split
  · rename_i h
    simp [h]
  · rename_i h
    refine List.filter_eq_nil_iff.2 fun click _ => ?_
    simp only [Bool.and_eq_true, beq_iff_eq]
    omega

/-- The entries for a tick are among those for some ticks if the tick is, and else none are. -/
theorem filter_entriesFrom (scene : Scene) (tick count t : Nat) :
    (scene.entriesFrom tick count).filter (·.atTick == t) =
      if tick ≤ t ∧ t < tick + count then scene.entriesAt t else [] := by
  induction count generalizing tick with
  | zero =>
      rw [if_neg (by omega)]
      rfl
  | succ count ih =>
      rw [entriesFrom_succ, List.filter_append, filter_entriesAt, ih]
      by_cases h : t = tick
      · rw [if_pos h, if_neg (by omega), if_pos (by omega), List.append_nil]
      · rw [if_neg h, List.nil_append]
        exact if_congr (by omega) rfl rfl

theorem pairwise_entriesFrom (scene : Scene) (tick count : Nat) :
    (scene.entriesFrom tick count).Pairwise (·.atTick ≤ ·.atTick) := by
  induction count generalizing tick with
  | zero => exact .nil
  | succ count ih =>
      have hfirst {click : ScriptedClick} (h : click ∈ scene.entriesAt tick) :
          click.atTick = tick := eq_of_beq (List.mem_filter.1 h).2
      rw [entriesFrom_succ, List.pairwise_append]
      refine ⟨List.pairwise_of_forall_mem_list ?_, ih (tick + 1), ?_⟩
      · intro click hclick click' hclick'
        exact ((hfirst hclick).trans (hfirst hclick').symm).le
      · intro click hclick click' hclick'
        obtain ⟨-, hlater, -⟩ := mem_entriesFrom.1 hclick'
        have hearlier := hfirst hclick
        omega

end Scene

theorem Session.ticks_clickAll (s : Session) (now : Instant) (ids : List SpriteId) :
    (s.clickAll now ids).ticks = s.ticks := by
  induction ids generalizing s with
  | nil => rfl
  | cons id ids ih => exact (ih (s.click id now)).trans (s.counts_after (.click id now)).ticks

namespace Playback

variable {p : Playback} {f : Frame} {frames : List Frame}

/-! ## Frames -/

/-- A frame passes some entries to the session once it has run its ticks: it clicks on the sprite of
each, one after the other, and does nothing else to the session. -/
structure Passes (p : Playback) (f : Frame) (clicks : List ScriptedClick) : Prop where
  session : (p.after f).session =
    (p.session.advance f.now).2.clickAll f.now (clicks.map (·.sprite))
  lines : (p.frame f.file f.freshId f.now).2 =
    (p.looked f).2 ++ (p.session.advance f.now).2.clickLines f.now clicks

/-- Frames pass some entries to the session, each its own. -/
inductive Delivers : Playback → List Frame → List (List ScriptedClick) → Prop where
  | nil (p : Playback) : Delivers p [] []
  | cons {p : Playback} {f : Frame} {frames : List Frame} {clicks : List ScriptedClick}
      {turns : List (List ScriptedClick)} :
      p.Passes f clicks → Delivers (p.after f) frames turns →
        Delivers p (f :: frames) (clicks :: turns)

/-- The entries for the ticks that each of some frames runs. -/
def passedAll (p : Playback) : List Frame → List (List ScriptedClick)
  | [] => []
  | f :: frames => p.passed f.now :: (p.after f).passedAll frames

/-- How many ticks the session has run: now, and at the end of each of some frames. -/
def tickCounts (p : Playback) : List Frame → List Nat
  | [] => [p.session.ticks]
  | f :: frames => p.session.ticks :: (p.after f).tickCounts frames

theorem ticks_of_load {path : String} {file : FileState} {freshId : Nat → SpriteId}
    (hload : load path file freshId = .ok p) : p.session.ticks = 0 := by
  obtain ⟨scene, session, hsession, rfl⟩ := load_eq_ok_iff.1 hload
  exact Scene.ticks_of_build (Scene.build_of_loadSession hsession)

theorem isCaughtUp_play (h : p.session.ticks = 0) (now : Instant) :
    (p.play now).1.IsCaughtUp ∧ (p.play now).1.session.ticks = 0 := by
  have hticks : (p.play now).1.session.ticks = 0 := by
    rw [session_play]
    exact (Session.ticks_clickAll _ now _).trans h
  refine ⟨?_, hticks⟩
  rw [IsCaughtUp, hticks, play_eq]
  rfl

/-- What a frame that takes up no scene does. -/
theorem after_of_none (hp : p.IsCaughtUp) (h : p.reloaded? f = none) :
    p.after f = { p with
      watch := (p.watch.poll f.file.stamp).2
      session := (p.session.advance f.now).2.clickAll f.now ((p.passed f.now).map (·.sprite))
      delivered := p.session.ticks + (p.session.advance f.now).1 } := by
  rw [after_eq, looked_of_none h]
  have hadvance := advance_eq (p := { p with watch := (p.watch.poll f.file.stamp).2 }) hp f.now
  exact congrArg (·.1) hadvance

theorem scene_after (hp : p.IsCaughtUp) (h : p.reloaded? f = none) :
    (p.after f).scene = p.scene := by
  rw [after_of_none hp h]

theorem ticks_after (hp : p.IsCaughtUp) (h : p.reloaded? f = none) :
    (p.after f).session.ticks = p.session.ticks + (p.session.advance f.now).1 := by
  rw [after_of_none hp h]
  exact (Session.ticks_clickAll _ f.now _).trans (p.session.counts_after (.advance f.now)).ticks

theorem isCaughtUp_after (hp : p.IsCaughtUp) (h : p.reloaded? f = none) :
    (p.after f).IsCaughtUp := by
  rw [IsCaughtUp, ticks_after hp h, after_of_none hp h]

theorem passes_passed (hp : p.IsCaughtUp) (h : p.reloaded? f = none) :
    p.Passes f (p.passed f.now) := by
  refine ⟨by rw [after_of_none hp h], ?_⟩
  have hlines := congrArg (·.2)
    (advance_eq (p := { p with watch := (p.watch.poll f.file.stamp).2 }) hp f.now)
  rw [frame_eq, looked_of_none h]
  exact congrArg ((p.looked f).2 ++ ·) hlines

theorem delivers_passedAll (hp : p.IsCaughtUp) (h : p.NeverReloads frames) :
    p.Delivers frames (p.passedAll frames) := by
  induction frames generalizing p with
  | nil => exact .nil p
  | cons f frames ih =>
      obtain ⟨hnone, hrest⟩ := h
      exact .cons (passes_passed hp hnone) (ih (isCaughtUp_after hp hnone) hrest)

/-- Frames pass the entries for the ticks that they run, tick by tick. -/
theorem flatten_passedAll (hp : p.IsCaughtUp) (h : p.NeverReloads frames) :
    ∃ count, (p.afterAll frames).session.ticks = p.session.ticks + count ∧
      (p.passedAll frames).flatten = p.scene.entriesFrom (p.session.ticks + 1) count := by
  induction frames generalizing p with
  | nil => exact ⟨0, rfl, rfl⟩
  | cons f frames ih =>
      obtain ⟨hnone, hrest⟩ := h
      obtain ⟨count, hcount, hpassed⟩ := ih (isCaughtUp_after hp hnone) hrest
      rw [ticks_after hp hnone] at hcount hpassed
      refine ⟨(p.session.advance f.now).1 + count, ?_, ?_⟩
      · rw [← Nat.add_assoc]
        exact hcount
      · rw [passedAll, List.flatten_cons, hpassed, scene_after hp hnone, Scene.entriesFrom_add,
          Nat.add_right_comm]
        rfl

theorem findIdx_tickCounts_eq_zero_iff {t : Nat} :
    (p.tickCounts frames).findIdx (t ≤ ·) = 0 ↔ t ≤ p.session.ticks := by
  have hhead (counts : List Nat) :
      (p.session.ticks :: counts).findIdx (t ≤ ·) = 0 ↔ t ≤ p.session.ticks := by
    by_cases h : t ≤ p.session.ticks <;> simp [List.findIdx_cons, h]
  cases frames with
  | nil => exact hhead []
  | cons f frames => exact hhead _

/-- The entries for a tick are passed in the first frame at whose end that many ticks have run. -/
theorem filter_passedAll (hp : p.IsCaughtUp) (h : p.NeverReloads frames) (t : Nat) {k : Nat}
    {clicks : List ScriptedClick} (hk : (p.passedAll frames)[k]? = some clicks) :
    clicks.filter (·.atTick == t) =
      if (p.tickCounts frames).findIdx (t ≤ ·) = k + 1 then p.scene.entriesAt t else [] := by
  induction frames generalizing p k with
  | nil => cases hk
  | cons f frames ih =>
      obtain ⟨hnone, hrest⟩ := h
      have hfirst : ((p.after f).tickCounts frames).findIdx (t ≤ ·) = 0 ↔
          t ≤ p.session.ticks + (p.session.advance f.now).1 := by
        rw [← ticks_after hp hnone]
        exact findIdx_tickCounts_eq_zero_iff
      have hcons : (p.tickCounts (f :: frames)).findIdx (t ≤ ·) =
          if t ≤ p.session.ticks then 0
          else ((p.after f).tickCounts frames).findIdx (t ≤ ·) + 1 := by
        rw [tickCounts, List.findIdx_cons]
        by_cases ht : t ≤ p.session.ticks <;> simp [ht]
      -- A frame that runs no tick up to `t` only puts off the first count that reaches it.
      rw [hcons]
      cases k with
      | zero =>
          obtain rfl : p.passed f.now = clicks := Option.some.inj hk
          rw [passed, Scene.filter_entriesFrom]
          refine if_congr ?_ rfl rfl
          split <;> omega
      | succ k =>
          rw [ih (isCaughtUp_after hp hnone) hrest hk, scene_after hp hnone]
          refine if_congr ?_ rfl rfl
          split <;> omega

/-- A playback that is loaded and played passes entries to its session when it is played and in
each frame, by clicking on their sprites. All together are in the order of their ticks. Those for a
tick are the ones of the file, in its order, if that many ticks have run at the end, and else there
are none; all of them are passed in the first frame at whose end that many have run. -/
theorem delivers_each_click_once {path : String} {file : FileState} {freshId : Nat → SpriteId}
    (hload : load path file freshId = .ok p) (began : Instant)
    (hkept : (p.play began).1.NeverReloads frames) :
    let start := (p.play began).1
    let first := p.scene.entriesAt 0
    let turns := first :: start.passedAll frames
    start.session = (p.session.play began).clickAll began (first.map (·.sprite)) ∧
    (p.play began).2 =
      ⟨.info, .session, s!"Play: {p.session.cast.sprites.length} sprite(s) armed"⟩ ::
        (p.session.play began).clickLines began first ∧
    start.Delivers frames (start.passedAll frames) ∧
    turns.flatten.Pairwise (·.atTick ≤ ·.atTick) ∧
    (∀ t, turns.flatten.filter (·.atTick == t) =
      if t ≤ (start.afterAll frames).session.ticks then p.scene.entriesAt t else []) ∧
    ∀ t k clicks, turns[k]? = some clicks → clicks.filter (·.atTick == t) =
      if (start.tickCounts frames).findIdx (t ≤ ·) = k then p.scene.entriesAt t else [] := by
  intro start first turns
  obtain ⟨hcaught, hticks⟩ := isCaughtUp_play (ticks_of_load hload) began
  have hscene : start.scene = p.scene := scene_play p began
  obtain ⟨count, hcount, hflat⟩ := flatten_passedAll hcaught hkept
  rw [hticks, Nat.zero_add] at hcount
  rw [hticks, hscene] at hflat
  have hall : turns.flatten = p.scene.entriesFrom 0 (count + 1) := by
    rw [Scene.entriesFrom_succ, ← hflat]
    rfl
  refine ⟨session_play p began, ?_, delivers_passedAll hcaught hkept, ?_, fun t => ?_,
    fun t k clicks hk => ?_⟩
  · rw [play_eq]
    rfl
  · rw [hall]
    exact p.scene.pairwise_entriesFrom 0 _
  · rw [hall, Scene.filter_entriesFrom, hcount]
    exact if_congr (by omega) rfl rfl
  · cases k with
    | zero =>
        obtain rfl : first = clicks := Option.some.inj hk
        rw [Scene.filter_entriesAt]
        refine if_congr ?_ rfl rfl
        rw [findIdx_tickCounts_eq_zero_iff, hticks]
        omega
    | succ k =>
        rw [filter_passedAll hcaught hkept t hk, hscene]

/-- A frame that runs two ticks passes the click on the cat once, and the cat is armed with its
click script. -/
theorem delivers_each_click_once_turning :
    let start := (turning.play 0).1
    let f := turningFrame 100_000_000
    load "turning.json" turningFile (fun _ => "") = .ok turning ∧ start.NeverReloads [f] ∧
      (start.afterAll [f]).session.ticks = 2 ∧
      (turning.scene.entriesAt 0 :: start.passedAll [f]).flatten.filter (·.atTick == 1) =
        [⟨1, "cat"⟩] ∧
      (start.frame f.file f.freshId f.now).2 =
        [⟨.info, .player, "Scripted click on 'cat' after tick 1"⟩] ∧
      start.session.cast.sprites.map (·.actor.trigger?) = [some .play] ∧
      (start.after f).session.cast.sprites.map (·.actor.trigger?) = [some .click] := by
  intro start f
  have hkept : start.NeverReloads [f] := neverReloads_of_load load_turning 0 [f]
  have hticks : (start.afterAll [f]).session.ticks = 2 := by decide +kernel
  obtain ⟨hstart, -, hframes, -, hentries, -⟩ := delivers_each_click_once load_turning 0 hkept
  cases hframes with
  | cons hpasses _ =>
      refine ⟨load_turning, hkept, hticks, ?_, ?_, ?_, ?_⟩
      · refine (hentries 1).trans ?_
        rw [hticks]
        decide +kernel
      · rw [hpasses.lines]
        decide +kernel
      · rw [hstart]
        decide +kernel
      · rw [hpasses.session]
        decide +kernel

end Playback

end SpriteStage
