import SpriteStage.Log
import SpriteStage.Scene.File

/-!
# Warnings about stage files

What loading a stage file gives reason to warn of. A file is gone through twice, to validate it and
to build its session, and a fault ends that: what stands behind it in the file is not warned of.
-/

namespace SpriteStage

def EditorRemark.line (r : EditorRemark) : LogLine := ⟨.warn, .program, r.message⟩

def FlatProgram.Remark.line (r : FlatProgram.Remark) : LogLine := ⟨.warn, .flattening, r.message⟩

namespace SceneSprite

/-- The warnings about the blocks of a sprite, which come after its costume. -/
def blockWarnings (s : SceneSprite) : List LogLine :=
  match s.toCostume with
  | .ok _ => (Program.eventRemarks [] s.actions).map (·.line)
  | .error _ => []

/-- The warnings about a sprite's program as it is made flat. -/
def flatWarnings (s : SceneSprite) (i : Increment) : List LogLine :=
  match s.toSpec "" with
  | .ok spec => (spec.program.flatRemarks i).map (·.line)
  | .error _ => []

end SceneSprite

namespace Scene

/-- The warnings about settings and the number of sprites. -/
def generalWarnings (scene : Scene) : List LogLine :=
  let settings := scene.settings
  let shortFrames : LogLine := ⟨.warn, .session,
    s!"max_accumulated_ms ({settings.longestFrameMs}) is below one tick; " ++
      s!"raising it to {settings.tickPeriodMs}"⟩
  let noSprites : LogLine := ⟨.warn, .scene,
    s!"Stage '{scene.stageId}' has no sprites; Play will do nothing"⟩
  (if settings.hasShortFrames then [shortFrames] else []) ++
    (if scene.sprites.isEmpty then [noSprites] else [])

/-- The warnings about sprites that follow sprites with given ids, up to the first invalid one. -/
def spriteWarnings (ids : List SpriteId) : List SceneSprite → List LogLine
  | [] => []
  | sprite :: sprites =>
    (if sprite.isNamed && sprite.isPlaced then sprite.blockWarnings else []) ++
      match validateNext ids sprite with
      | .ok ids => spriteWarnings ids sprites
      | .error _ => []

/-- The warnings of validating a scene. -/
def validationWarnings (scene : Scene) : List LogLine :=
  if scene.version = supportedVersion ∧ ¬Text.isEmptyTrimmed scene.stageId ∧
      scene.settings.validate.isOk then
    scene.generalWarnings ++ spriteWarnings [] scene.sprites
  else
    []

/-- The warnings of building the session of a scene. -/
def buildWarnings (scene : Scene) : List LogLine :=
  scene.sprites.flatMap fun sprite =>
    sprite.blockWarnings ++ sprite.flatWarnings (.ofSingle scene.settings.moveIncrement)

/-- The warnings of loading the session of the scene in a file. -/
def loadWarnings (path : String) (content : FileContent) : List LogLine :=
  match Scene.read path content with
  | .error _ => []
  | .ok scene =>
    scene.validationWarnings ++ if scene.validate.isOk then scene.buildWarnings else []

end Scene

end SpriteStage
