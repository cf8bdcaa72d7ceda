import SpriteStage.Playback

/-!
# Frames of a playback

What a frame meets, as a value, and a playback after any frames. Before its session runs, a frame
takes up the scene that the file holds then, if the file has changed and that scene can be loaded
(`Playback.reloaded?`).
-/

namespace SpriteStage

/-- What a frame meets: the file, ids for sprites that come without one, and the time. -/
structure Frame where
  file : FileState
  freshId : Nat → SpriteId
  now : Instant
deriving Inhabited

/-- The frame as it would be if it met the file in another state. -/
def Frame.meeting (file : FileState) (f : Frame) : Frame := { f with file }

namespace Playback

def after (p : Playback) (f : Frame) : Playback := (p.frame f.file f.freshId f.now).1

/-- The playback after frames, one after the other. -/
def afterAll (p : Playback) (frames : List Frame) : Playback := frames.foldl after p

/-- The scene and the session that a frame takes up. -/
def reloaded? (p : Playback) (f : Frame) : Option (Scene × Session) :=
  if (p.watch.poll f.file.stamp).1 then
    (Scene.loadSession p.path f.file.content f.freshId).toOption
  else
    none

/-- None of the frames takes up a scene: whenever the file has changed, it cannot be loaded. -/
def NeverReloads (p : Playback) : List Frame → Prop
  | [] => True
  | f :: frames => p.reloaded? f = none ∧ (p.after f).NeverReloads frames

end Playback

end SpriteStage
