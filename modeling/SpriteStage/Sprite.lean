import SpriteStage.Actor
import SpriteStage.BubbleTimers
import SpriteStage.Costume

/-!
# Sprites

A sprite joins what it is called, how it is drawn, the program it was given, that program made flat,
and the actor that carries it out. `SpriteSpec` is what is needed to add one to a cast.
-/

namespace SpriteStage

/-- A sprite before it joins a cast. -/
structure SpriteSpec where
  id : SpriteId
  name : String
  costume : Costume := default
  start : Pose
  program : Program := {}
deriving Inhabited

structure Sprite where
  id : SpriteId
  name : String
  costume : Costume
  program : Program
  flat : FlatProgram
  actor : Actor
deriving Inhabited

namespace Sprite

/-- The sprite of a spec, idle at its start pose. -/
def ofSpec (i : Increment) (spec : SpriteSpec) : Sprite where
  id := spec.id
  name := spec.name
  costume := spec.costume
  program := spec.program
  flat := spec.program.flatten i
  actor := { start := spec.start }

/-- The sprite with another program, made flat at once. -/
def withProgram (s : Sprite) (i : Increment) (program : Program) : Sprite :=
  { s with program, flat := program.flatten i }

/-- Arms the actor with the program as it is now. -/
def arm (s : Sprite) (t : Trigger) : Sprite := { s with actor := s.actor.arm t s.flat }

def restart (s : Sprite) : Sprite := { s with actor := s.actor.restart }

def clearBubble (s : Sprite) : Sprite := { s with actor := s.actor.clearBubble }

/-- The trigger whose script counts as the active one; without any it is `play`. -/
def activeTrigger (s : Sprite) : Trigger := s.actor.trigger?.getD .play

/-- Takes over another program and goes on a cooldown. A sprite that is armed starts the new script
of its trigger from the first block, where it stands. -/
def takeOver (s : Sprite) (i : Increment) (program : Program) (cooldown : Nat) : Sprite :=
  let s := s.withProgram i program
  let actor := match s.actor.trigger? with
    | some t => s.actor.armInPlace t s.flat
    | none => s.actor
  { s with actor := { actor with cooldown } }

end Sprite

end SpriteStage
