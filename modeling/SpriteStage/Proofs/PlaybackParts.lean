import SpriteStage.Playback.Frame
import SpriteStage.Proofs.SessionParts

/-!
# What a frame does to the parts of a playback

A playback passes the entries of its script to its session: it clicks on their sprites, one after
the other (`Session.clickAll`), with a line about each (`Session.clickLines`). Playing passes those
of tick 0 (`play_eq`), and a frame runs its ticks and then passes those of all of them
(`advance_eq`).
-/

namespace SpriteStage

/-! ## Clicks -/

/-- The entries of a scene's script for a tick, in the order of the file. -/
def Scene.entriesAt (scene : Scene) (tick : Nat) : List ScriptedClick :=
  scene.clicks.filter fun click => click.atTick == tick

/-- The entries for so many ticks from a given one on, tick by tick. -/
def Scene.entriesFrom (scene : Scene) (tick count : Nat) : List ScriptedClick :=
  (List.range' tick count).flatMap scene.entriesAt

theorem Scene.entriesFrom_succ (scene : Scene) (tick count : Nat) :
    scene.entriesFrom tick (count + 1) =
      scene.entriesAt tick ++ scene.entriesFrom (tick + 1) count := by
  rw [entriesFrom, List.range'_succ, List.flatMap_cons]
  rfl

/-- What is said about an entry of a script: which sprite was clicked, after which tick, and whether
the click did nothing. -/
def ScriptedClick.line (click : ScriptedClick) (isClickable : Bool) : LogLine :=
  let outcome := if isClickable then "" else ": no click script"
  ⟨.info, .player, s!"Scripted click on '{click.sprite}' after tick {click.atTick}{outcome}"⟩

namespace Session

/-- Clicks on sprites, one after the other. -/
def clickAll (s : Session) (now : Instant) (ids : List SpriteId) : Session :=
  ids.foldl (fun s id => s.click id now) s

/-- What is said about entries of a script when their sprites are clicked one after the other. -/
def clickLines (s : Session) (now : Instant) : List ScriptedClick → List LogLine
  | [] => []
  | click :: clicks =>
    click.line (s.isClickable click.sprite) :: (s.click click.sprite now).clickLines now clicks

theorem clickAll_append (s : Session) (now : Instant) (ids ids' : List SpriteId) :
    s.clickAll now (ids ++ ids') = (s.clickAll now ids).clickAll now ids' := List.foldl_append

theorem clickLines_append (s : Session) (now : Instant) (clicks clicks' : List ScriptedClick) :
    s.clickLines now (clicks ++ clicks') = s.clickLines now clicks ++
      (s.clickAll now (clicks.map (·.sprite))).clickLines now clicks' := by
  induction clicks generalizing s with
  | nil => rfl
  | cons click clicks ih => exact congrArg (_ :: ·) (ih (s.click click.sprite now))

/-- Delivering the clicks of a tick clicks on each sprite once. Lines that stand there already stay
in front. -/
theorem foldl_deliverClick (s : Session) (lines : List LogLine) (now : Instant) (tick : Nat)
    {clicks : List ScriptedClick} (h : ∀ click ∈ clicks, click.atTick = tick) :
    (clicks.map (·.sprite)).foldl (Playback.deliverClick tick now) (s, lines) =
      (s.clickAll now (clicks.map (·.sprite)), lines ++ s.clickLines now clicks) := by
  induction clicks generalizing s lines with
  | nil => simp [clickAll, clickLines]
  | cons click clicks ih =>
      obtain rfl := h click List.mem_cons_self
      have hfirst : Playback.deliverClick click.atTick now (s, lines) click.sprite =
          (s.click click.sprite now, lines ++ [click.line (s.isClickable click.sprite)]) := rfl
      have hrest := ih (s.click click.sprite now)
        (lines ++ [click.line (s.isClickable click.sprite)])
        fun click' hclick' => h click' (List.mem_cons_of_mem _ hclick')
      rw [List.map_cons, List.foldl_cons, hfirst, hrest, clickLines, List.append_assoc]
      rfl

end Session

namespace Playback

variable {p : Playback} {f : Frame}

/-- The playback and the lines once the sprites of entries have been clicked. -/
def passing (p : Playback) (now : Instant) (clicks : List ScriptedClick) :
    Playback × List LogLine :=
  ({ p with session := p.session.clickAll now (clicks.map (·.sprite)) },
    p.session.clickLines now clicks)

theorem deliverClicks_eq (p : Playback) (now : Instant) (tick : Nat) :
    p.deliverClicks now tick = p.passing now (p.scene.entriesAt tick) := by
  have hticks : ∀ click ∈ p.scene.entriesAt tick, click.atTick = tick := fun click hclick =>
    eq_of_beq (List.mem_filter.1 hclick).2
  have hfold := p.session.foldl_deliverClick [] now tick hticks
  rw [List.nil_append] at hfold
  exact congrArg (fun d : Session × List LogLine => ({ p with session := d.1 }, d.2)) hfold

theorem deliverAfter_eq (p : Playback) (now : Instant) (tick count : Nat) :
    p.deliverAfter now tick count = p.passing now (p.scene.entriesFrom (tick + 1) count) := by
  induction count generalizing p tick with
  | zero => rfl
  | succ count ih =>
      let first := p.deliverClicks now (tick + 1)
      change ((first.1.deliverAfter now (tick + 1) count).1,
        first.2 ++ (first.1.deliverAfter now (tick + 1) count).2) = _
      rw [ih, Scene.entriesFrom_succ]
      unfold first passing
      rw [deliverClicks_eq, List.map_append, Session.clickAll_append, Session.clickLines_append]
      rfl

/-! ## Playing and frames -/

/-- Playing passes the entries of tick 0; the line about the start of play comes first. -/
theorem play_eq (p : Playback) (now : Instant) :
    p.play now =
      let passed := { p with session := p.session.play now, delivered := 0 }.passing now
        (p.scene.entriesAt 0)
      (passed.1, ⟨.info, .session,
        s!"Play: {p.session.cast.sprites.length} sprite(s) armed"⟩ :: passed.2) := by
  unfold play
  rw [deliverClicks_eq]

theorem scene_play (p : Playback) (now : Instant) : (p.play now).1.scene = p.scene := by
  rw [play_eq]
  rfl

theorem session_play (p : Playback) (now : Instant) :
    (p.play now).1.session =
      (p.session.play now).clickAll now ((p.scene.entriesAt 0).map (·.sprite)) := by
  rw [play_eq]
  rfl

/-- All clicks up to the ticks that the session has run have been delivered. -/
def IsCaughtUp (p : Playback) : Prop := p.delivered = p.session.ticks

/-- The entries for the ticks that are run when the session goes on to an instant. -/
def passed (p : Playback) (now : Instant) : List ScriptedClick :=
  p.scene.entriesFrom (p.session.ticks + 1) (p.session.advance now).1

/-- A playback that is caught up passes the entries for the ticks that it runs, and is so again. -/
theorem advance_eq (h : p.IsCaughtUp) (now : Instant) :
    p.advance now =
      { p with
        session := (p.session.advance now).2
        delivered := p.session.ticks + (p.session.advance now).1 }.passing now
          (p.passed now) := by
  have hticks : (p.session.advance now).2.ticks = p.session.ticks + (p.session.advance now).1 :=
    (p.session.counts_after (.advance now)).ticks
  obtain ⟨path, watch, scene, session, delivered⟩ := p
  obtain rfl : delivered = session.ticks := h
  unfold advance passed
  generalize session.advance now = ran at hticks ⊢
  obtain ⟨count, ran⟩ := ran
  dsimp only at hticks ⊢
  split
  · rename_i hnone
    subst hnone
    rfl
  · rw [deliverAfter_eq, hticks, Nat.add_sub_cancel_left]
    rfl

/-- The playback once a frame has looked at the file, with the lines of a reload. -/
def looked (p : Playback) (f : Frame) : Playback × List LogLine :=
  let polled := p.watch.poll f.file.stamp
  let p := { p with watch := polled.2 }
  if polled.1 then p.reload f.file.content f.freshId f.now else (p, [])

theorem frame_eq (p : Playback) (f : Frame) :
    p.frame f.file f.freshId f.now =
      (((p.looked f).1.advance f.now).1,
        (p.looked f).2 ++ ((p.looked f).1.advance f.now).2) := rfl

theorem after_eq (p : Playback) (f : Frame) : p.after f = ((p.looked f).1.advance f.now).1 := rfl

/-- A frame plays the scene that it takes up, and else has only looked. -/
theorem looked_eq (p : Playback) (f : Frame) :
    (p.looked f).1 =
      let looking := { p with watch := (p.watch.poll f.file.stamp).2 }
      match p.reloaded? f with
      | some (scene, session) => ({ looking with scene, session }.play f.now).1
      | none => looking := by
  unfold looked reloaded? reload
  dsimp only
  split
  · cases Scene.loadSession p.path f.file.content f.freshId <;> rfl
  · rfl

theorem looked_of_none (h : p.reloaded? f = none) :
    (p.looked f).1 = { p with watch := (p.watch.poll f.file.stamp).2 } := by
  rw [looked_eq, h]

theorem looked_of_some {scene : Scene} {session : Session}
    (h : p.reloaded? f = some (scene, session)) :
    (p.looked f).1 = ({ p with
      watch := (p.watch.poll f.file.stamp).2, scene, session }.play f.now).1 := by
  rw [looked_eq, h]

/-! ## A sample -/

/-- A file with a cat that turns when it is clicked, and a click on it after tick 1. -/
def turningFile : FileState where
  content := .text ("[\"0.1\",\"s\",[]," ++
    "[[\"cat\",\"Cat\",null,0,0,0,[[\"click\",[[\"turn\"]]]]]],[[1,\"cat\"]]]")
  stamp := some 0

/-- A frame that meets that file. -/
def turningFrame (now : Instant) : Frame := ⟨turningFile, fun _ => "", now⟩

/-- The playback of that file. -/
def turning : Playback := (load "turning.json" turningFile fun _ => "").toOption.getD default

theorem load_turning : load "turning.json" turningFile (fun _ => "") = .ok turning := by
  have hok : (load "turning.json" turningFile fun _ => "").isOk := by decide +kernel
  unfold turning
  cases hload : load "turning.json" turningFile fun _ => "" with
  | error e =>
      rw [hload] at hok
      cases hok
  | ok p => rfl

end Playback

end SpriteStage
