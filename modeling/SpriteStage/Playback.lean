import SpriteStage.Decimal.Text
import SpriteStage.Scene.Warnings

/-!
# Playing a scene

A playback runs the session of a stage file and clicks on its sprites as the file asks: each click
follows the tick it names, or the start of play if that is tick 0. Before every frame the file is
looked at; if it has changed, the scene in it is loaded and played from the start, and if that scene
cannot be loaded the playback goes on as before.
-/

namespace SpriteStage

structure Playback where
  path : String
  watch : FileWatch
  scene : Scene
  session : Session
  /-- All clicks up to this tick have been delivered. -/
  delivered : Nat := 0
deriving Inhabited

/-- The file of a playback at some moment: what it holds and when it was modified. -/
structure FileState where
  content : FileContent
  stamp : Option Stamp
deriving Inhabited

namespace Playback

def load (path : String) (file : FileState) (freshId : Nat → SpriteId) :
    Except LoadError Playback := do
  let (scene, session) ← Scene.loadSession path file.content freshId
  return { path, watch := ⟨file.stamp⟩, scene, session }

def loadedLine (p : Playback) : LogLine :=
  ⟨.info, .player, s!"Loaded stage {p.scene.stageId} ({p.scene.version}) " ++
    s!"with {p.session.cast.sprites.length} sprite(s)"⟩

/-- One scripted click, with the line that says whether it did anything. -/
def deliverClick (tick : Nat) (now : Instant) (state : Session × List LogLine) (id : SpriteId) :
    Session × List LogLine :=
  let (session, lines) := state
  let outcome := if session.isClickable id then "" else ": no click script"
  (session.click id now,
    lines ++ [⟨.info, .player, s!"Scripted click on '{id}' after tick {tick}{outcome}"⟩])

def deliverClicks (p : Playback) (now : Instant) (tick : Nat) : Playback × List LogLine :=
  let (session, lines) := (p.scene.clicksAt tick).foldl (deliverClick tick now) (p.session, [])
  ({ p with session }, lines)

/-- The clicks that follow the first `count` ticks after a given one. -/
def deliverAfter (p : Playback) (now : Instant) (tick : Nat) : Nat → Playback × List LogLine
  | 0 => (p, [])
  | count + 1 =>
    let (p, lines) := p.deliverClicks now (tick + 1)
    let (p, more) := p.deliverAfter now (tick + 1) count
    (p, lines ++ more)

def play (p : Playback) (now : Instant) : Playback × List LogLine :=
  let armed : LogLine := ⟨.info, .session,
    s!"Play: {p.session.cast.sprites.length} sprite(s) armed"⟩
  let (p, lines) := { p with session := p.session.play now, delivered := 0 }.deliverClicks now 0
  (p, armed :: lines)

/-- Takes up the scene that the file holds now, if it can be loaded. -/
def reload (p : Playback) (content : FileContent) (freshId : Nat → SpriteId) (now : Instant) :
    Playback × List LogLine :=
  match Scene.loadSession p.path content freshId with
  | .ok (scene, session) =>
    let (p, lines) := { p with scene, session }.play now
    let done : LogLine := ⟨.info, .player,
      s!"Stage reloaded (file changed): {scene.stageId} ({scene.version})"⟩
    (p, Scene.loadWarnings p.path content ++ lines ++ [done])
  | .error e =>
    let failed : LogLine := ⟨.error, .player, s!"Stage reload failed (file changed): {e.message}"⟩
    (p, Scene.loadWarnings p.path content ++ [failed])

/-- Runs the session to an instant and delivers the clicks of the ticks that it ran. -/
def advance (p : Playback) (now : Instant) : Playback × List LogLine :=
  let (count, session) := p.session.advance now
  let p := { p with session }
  if count = 0 then
    (p, [])
  else
    let (p, lines) := p.deliverAfter now p.delivered (session.ticks - p.delivered)
    ({ p with delivered := session.ticks }, lines)

/-- One frame: the file is looked at, then the session runs. -/
def frame (p : Playback) (file : FileState) (freshId : Nat → SpriteId) (now : Instant) :
    Playback × List LogLine :=
  let (changed, watch) := p.watch.poll file.stamp
  let p := { p with watch }
  let (p, reloading) := if changed then p.reload file.content freshId now else (p, [])
  let (p, lines) := p.advance now
  (p, reloading ++ lines)

def stop (p : Playback) : Playback × List LogLine :=
  ({ p with session := p.session.stop },
    [⟨.info, .session, s!"Stopped after {p.session.ticks} tick(s)"⟩])

/-! ## Report -/

def reportSprite (s : Sprite) : LogLine :=
  let pose := s.actor.pose
  let place := s!"({pose.x.toFixed 1}, {pose.y.toFixed 1}) heading {pose.heading.toFixed 1}"
  let bubble := match s.actor.bubble with
    | some bubble => s!" {bubble.kind.label} \"{bubble.text}\""
    | none => ""
  ⟨.info, .player, s!"  {s.name} [{s.costume.label}] {place} {s.actor.phase.label} " ++
    s!"index {s.actor.index}{bubble}"⟩

def report (p : Playback) : List LogLine :=
  ⟨.info, .player, s!"Ran {p.session.ticks} tick(s), {p.session.swaps} collision swap(s)"⟩ ::
    p.session.cast.sprites.map reportSprite

end Playback

end SpriteStage
