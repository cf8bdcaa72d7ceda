import SpriteStage.Proofs.BuiltSessions
import SpriteStage.Proofs.PlaybackParts

/-!
# Reloading while playing

A frame either takes up the scene in the file and plays it from the start, or leaves everything as
it was: frames that take up no scene matter by their times only (`state_afterAll_congr`). So after
any frames a playback is where it would be with a file that never changed, or where a playback of
the scene taken up last would be (`reloads_all_or_nothing`).
-/

namespace SpriteStage

namespace Playback

variable {p q : Playback} {f : Frame} {frames frames' : List Frame}

/-- What a playback plays, the file apart: its scene, its session, and how far the clicks have been
delivered. -/
def state (p : Playback) : Scene × Session × Nat := (p.scene, p.session, p.delivered)

/-! ## Single frames -/

theorem state_advance_congr (h : p.state = q.state) (now : Instant) :
    (p.advance now).1.state = (q.advance now).1.state := by
  obtain ⟨path, watch, scene, session, delivered⟩ := p
  obtain ⟨path', watch', scene', session', delivered'⟩ := q
  cases h
  unfold advance
  dsimp only
  rw [deliverAfter_eq, deliverAfter_eq]
  split <;> rfl

theorem state_play_congr (hscene : p.scene = q.scene) (hsession : p.session = q.session)
    (now : Instant) : (p.play now).1.state = (q.play now).1.state := by
  rw [play_eq, play_eq, hscene, hsession]
  rfl

/-- Going on with the session leaves the file alone. -/
theorem file_advance (p : Playback) (now : Instant) :
    (p.advance now).1.path = p.path ∧ (p.advance now).1.watch = p.watch := by
  unfold advance
  dsimp only
  rw [deliverAfter_eq]
  split <;> exact ⟨rfl, rfl⟩

theorem path_after (p : Playback) (f : Frame) : (p.after f).path = p.path := by
  rw [after_eq, (file_advance _ f.now).1]
  cases h : p.reloaded? f with
  | none => rw [looked_of_none h]
  | some loaded => rw [looked_of_some h, play_eq]; rfl

theorem path_afterAll (p : Playback) (frames : List Frame) : (p.afterAll frames).path = p.path := by
  induction frames generalizing p with
  | nil => rfl
  | cons f frames ih => exact (ih (p.after f)).trans (p.path_after f)

theorem state_after_of_none (h : p.reloaded? f = none) :
    (p.after f).state = (p.advance f.now).1.state := by
  have hsame : ({ p with watch := (p.watch.poll f.file.stamp).2 } : Playback).state = p.state := rfl
  rw [after_eq, looked_of_none h]
  exact state_advance_congr hsame f.now

theorem loadSession_of_some {scene : Scene} {session : Session}
    (h : p.reloaded? f = some (scene, session)) :
    Scene.loadSession p.path f.file.content f.freshId = .ok (scene, session) := by
  unfold reloaded? at h
  split at h
  · cases hload : Scene.loadSession p.path f.file.content f.freshId with
    | error e =>
        rw [hload] at h
        cases h
    | ok loaded =>
        rw [hload] at h
        cases h
        rfl
  · cases h

/-- A frame that meets the file as it was seen last takes up no scene, and sees nothing new. -/
theorem reloaded?_of_seen (h : p.watch.seen = f.file.stamp) :
    p.reloaded? f = none ∧ (p.after f).watch = p.watch := by
  have hpoll : p.watch.poll f.file.stamp = (false, p.watch) := by
    unfold FileWatch.poll
    rw [h]
    cases f.file.stamp with
    | none => rfl
    | some stamp => simp [FileWatch.isLater]
  have hnone : p.reloaded? f = none := by
    rw [reloaded?, hpoll]
    rfl
  refine ⟨hnone, ?_⟩
  rw [after_eq, (file_advance _ f.now).2, looked_of_none hnone, hpoll]

/-! ## Frames that take up no scene -/

theorem neverReloads_meeting {file : FileState} (h : p.watch.seen = file.stamp)
    (frames : List Frame) : p.NeverReloads (frames.map (.meeting file)) := by
  induction frames generalizing p with
  | nil => trivial
  | cons f frames ih =>
      obtain ⟨hnone, hwatch⟩ := reloaded?_of_seen (f := f.meeting file) h
      exact ⟨hnone, ih (hwatch ▸ h)⟩

/-- Frames that take up no scene matter by their times only. -/
theorem state_afterAll_congr (h : p.state = q.state) (hp : p.NeverReloads frames)
    (hq : q.NeverReloads frames') (hnow : frames.map (·.now) = frames'.map (·.now)) :
    (p.afterAll frames).state = (q.afterAll frames').state := by
  induction frames generalizing p q frames' with
  | nil =>
      obtain rfl := List.map_eq_nil_iff.1 hnow.symm
      exact h
  | cons f frames ih =>
      obtain ⟨f', rest, rfl, hf, hrest⟩ := List.map_eq_cons_iff.1 hnow.symm
      obtain ⟨hnone, hp⟩ := hp
      obtain ⟨hnone', hq⟩ := hq
      refine ih (p := p.after f) (q := q.after f') ?_ hp hq hrest.symm
      rw [state_after_of_none hnone, state_after_of_none hnone', hf]
      exact state_advance_congr h f.now

/-- Some frame is the last to take up a scene, if any does. -/
theorem neverReloads_or_exists_last (p : Playback) (frames : List Frame) :
    p.NeverReloads frames ∨ ∃ before f later, frames = before ++ f :: later ∧
      ((p.afterAll before).reloaded? f).isSome ∧
      ((p.afterAll before).after f).NeverReloads later := by
  induction frames generalizing p with
  | nil => exact .inl trivial
  | cons f frames ih =>
      obtain hnever | ⟨before, g, later, rfl, hsome, hlater⟩ := ih (p.after f)
      · cases hloaded : p.reloaded? f with
        | none => exact .inl ⟨hloaded, hnever⟩
        | some loaded =>
            have hsome : ((p.afterAll []).reloaded? f).isSome := by
              change (p.reloaded? f).isSome
              rw [hloaded]
              rfl
            exact .inr ⟨[], f, frames, rfl, hsome, hnever⟩
      · exact .inr ⟨f :: before, g, later, rfl, hsome, hlater⟩

/-! ## Any frames -/

theorem load_eq_ok_iff {path : String} {file : FileState} {freshId : Nat → SpriteId} :
    load path file freshId = .ok p ↔ ∃ scene session,
      Scene.loadSession path file.content freshId = .ok (scene, session) ∧
        p = { path, watch := ⟨file.stamp⟩, scene, session } := by
  unfold load
  rw [bind_eq_ok_iff]
  constructor
  · rintro ⟨⟨scene, session⟩, h, hp⟩
    cases hp
    exact ⟨scene, session, h, rfl⟩
  · rintro ⟨scene, session, h, rfl⟩
    exact ⟨(scene, session), h, rfl⟩

/-- A playback that is loaded and played has seen its file as it was loaded. -/
theorem file_play {path : String} {file : FileState} {freshId : Nat → SpriteId}
    (hload : load path file freshId = .ok p) (now : Instant) :
    (p.play now).1.path = path ∧ (p.play now).1.watch = ⟨file.stamp⟩ := by
  obtain ⟨scene, session, -, rfl⟩ := load_eq_ok_iff.1 hload
  rw [play_eq]
  exact ⟨rfl, rfl⟩

/-- No frame takes up a scene if all meet the file that was loaded. -/
theorem neverReloads_of_load {path : String} {file : FileState} {freshId : Nat → SpriteId}
    (hload : load path file freshId = .ok p) (now : Instant) (frames : List Frame) :
    (p.play now).1.NeverReloads (frames.map (.meeting file)) := by
  refine neverReloads_meeting ?_ frames
  rw [(file_play hload now).2]

/-- A playback that is loaded and played either never takes up a scene again, and is where it would
be had the file never changed; or it takes one up for the last time in some frame, and is where the
playback of that file would be, had it been loaded and played then and met no other file since. If
the sprites in the file are named, that does not depend on the ids for sprites without one. -/
theorem reloads_all_or_nothing {path : String} {file : FileState} {freshId : Nat → SpriteId}
    (hload : load path file freshId = .ok p) (began : Instant) (frames : List Frame) :
    let start := (p.play began).1
    (start.NeverReloads frames ∧
      (start.afterAll frames).state = (start.afterAll (frames.map (.meeting file))).state) ∨
    ∃ before f later, frames = before ++ f :: later ∧
      ((start.afterAll before).reloaded? f).isSome ∧
      ((start.afterAll before).after f).NeverReloads later ∧
      ∀ freshId', freshId' = f.freshId ∨
          (∀ scene, Scene.load path f.file.content = .ok scene → scene.NamesSprites) →
        ∃ fresh, load path f.file freshId' = .ok fresh ∧
          (start.afterAll frames).state =
            ((fresh.play f.now).1.afterAll ((f :: later).map (.meeting f.file))).state := by
  intro start
  obtain hnever | ⟨before, f, later, rfl, hsome, hlater⟩ := start.neverReloads_or_exists_last frames
  · have hunchanged := neverReloads_of_load hload began frames
    refine .inl ⟨hnever, state_afterAll_congr rfl hnever hunchanged ?_⟩
    rw [List.map_map]
    rfl
  · refine .inr ⟨before, f, later, rfl, hsome, hlater, fun freshId' hids => ?_⟩
    obtain ⟨⟨scene', session'⟩, hreloaded⟩ := Option.isSome_iff_exists.1 hsome
    have hpath : (start.afterAll before).path = path :=
      (path_afterAll start before).trans (file_play hload began).1
    have hloaded : Scene.loadSession path f.file.content freshId' = .ok (scene', session') := by
      rw [← loadSession_of_some hreloaded, hpath]
      obtain rfl | hnamed := hids
      · rfl
      · exact Scene.loadSession_congr hnamed freshId' f.freshId
    let fresh : Playback := { path, watch := ⟨f.file.stamp⟩, scene := scene', session := session' }
    have hfresh : load path f.file freshId' = .ok fresh :=
      load_eq_ok_iff.2 ⟨scene', session', hloaded, rfl⟩
    refine ⟨fresh, hfresh, ?_⟩
    -- Both play the scene of this frame, and from then on both meet frames that change nothing.
    obtain ⟨hnone, hrest⟩ := neverReloads_of_load hfresh f.now (f :: later)
    have hboth : ((start.afterAll before).after f).state =
        ((fresh.play f.now).1.after (f.meeting f.file)).state := by
      rw [state_after_of_none hnone, after_eq, looked_of_some hreloaded]
      have hplayed := state_play_congr (q := fresh) (p := { start.afterAll before with
        watch := ((start.afterAll before).watch.poll f.file.stamp).2
        scene := scene'
        session := session' }) rfl rfl f.now
      exact state_advance_congr hplayed f.now
    have hsplit : start.afterAll (before ++ f :: later) =
        ((start.afterAll before).after f).afterAll later := List.foldl_append
    rw [hsplit]
    refine state_afterAll_congr (q := (fresh.play f.now).1.after (f.meeting f.file)) hboth hlater
      hrest ?_
    rw [List.map_map]
    rfl

/-- A broken file changes nothing. -/
theorem reloads_all_or_nothing_turning :
    load "turning.json" turningFile (fun _ => "") = .ok turning ∧
      let start := (turning.play 0).1
      let broken := (turningFrame 100_000_000).meeting ⟨.text "[", some 1⟩
      (start.afterAll [broken]).state = (start.afterAll [turningFrame 100_000_000]).state := by
  refine ⟨load_turning, ?_⟩
  intro start broken
  obtain ⟨-, hsame⟩ | ⟨before, f, later, hframes, hsome, -⟩ :=
    reloads_all_or_nothing load_turning 0 [broken]
  · exact hsame
  · -- The frame that takes up a scene would be this one, but its file does not hold any.
    obtain ⟨rfl, rfl, -⟩ : before = [] ∧ f = broken ∧ later = [] := by
      cases before with
      | nil =>
          cases hframes
          exact ⟨rfl, rfl, rfl⟩
      | cons _ before => simp at hframes
    obtain ⟨⟨scene, session⟩, hreloaded⟩ := Option.isSome_iff_exists.1 hsome
    have hpath : (start.afterAll []).path = "turning.json" := (file_play load_turning 0).1
    have hloaded := loadSession_of_some hreloaded
    rw [hpath] at hloaded
    have hbroken :
        (Scene.loadSession "turning.json" broken.file.content broken.freshId).isOk = false := by
      decide +kernel
    rw [hloaded] at hbroken
    cases hbroken

end Playback

end SpriteStage
