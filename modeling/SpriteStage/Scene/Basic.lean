import SpriteStage.Program.Events
import SpriteStage.Session.Basic

/-!
# Scenes

A scene is what a stage file describes: settings, sprites, and clicks that are to happen after given
ticks. `Scene.record` is its form in the file, `Scene.validate` what a file must satisfy beyond
that, and `Scene.build` the session that it starts. Sprites without an id get one from outside.
-/

namespace SpriteStage

structure SceneSprite where
  id : Option SpriteId
  name : String
  costume : Option String
  x : Single
  y : Single
  direction : Single
  actions : List EditorEvent
deriving Inhabited

/-- A click on a sprite that is to follow a tick. -/
structure ScriptedClick where
  atTick : Nat
  sprite : SpriteId
deriving DecidableEq, Inhabited

structure Scene where
  version : String
  stageId : String
  settings : Settings
  sprites : List SceneSprite
  clicks : List ScriptedClick
deriving Inhabited

namespace SceneSprite

def record : Json.Record SceneSprite where
  name := "StageSprite"
  initial := ⟨none, "", none, 0, 0, defaultHeading, []⟩
  fields := [
    .optional "id" (.nullable .string) fun v s => { s with id := v },
    .required "name" .string fun v s => { s with name := v },
    .optional "costume" (.nullable .string) fun v s => { s with costume := v },
    .required "x" .single fun v s => { s with x := v },
    .required "y" .single fun v s => { s with y := v },
    .optional "direction" .single fun v s => { s with direction := v },
    .optional "actions" (.list EditorEvent.record.decode) fun v s => { s with actions := v }]

def isNamed (s : SceneSprite) : Bool := !Text.isEmptyTrimmed s.name

def isPlaced (s : SceneSprite) : Bool :=
  s.x.isFinite && s.y.isFinite && s.direction.isFinite

end SceneSprite

def ScriptedClick.record : Json.Record ScriptedClick where
  name := "ScriptedClick"
  initial := ⟨0, ""⟩
  fields := [
    .required "at_tick" .natural64 fun v c => { c with atTick := v },
    .required "sprite" .string fun v c => { c with sprite := v }]

inductive SceneError where
  | version (found : String)
  | emptyStageId
  | settings (error : SettingsError)
  | emptyName
  | notFinite (name : String)
  | unknownCostume (sprite costume : String)
  | event (error : EventError)
  | duplicateId (id : SpriteId)
  | clickTarget (tick : Nat) (id : SpriteId)
  | cast (error : CastError)
deriving DecidableEq

namespace Scene

def supportedVersion : String := "0.1"

def record : Json.Record Scene where
  name := "StageFile"
  initial := ⟨"", "", {}, [], []⟩
  fields := [
    .required "version" .string fun v s => { s with version := v },
    .required "stage_id" .string fun v s => { s with stageId := v },
    .optional "config" Settings.record.decode fun v s => { s with settings := v },
    .required "sprites" (.list SceneSprite.record.decode) fun v s => { s with sprites := v },
    .optional "clicks" (.list ScriptedClick.record.decode) fun v s => { s with clicks := v }]

end Scene

def SceneError.message : SceneError → String
  | version found =>
    invalid s!"unsupported version '{found}' (expected '{Scene.supportedVersion}')"
  | emptyStageId => invalid "stage_id is empty"
  | settings error => error.message
  | emptyName => invalid "sprite with empty name"
  | notFinite name => invalid s!"sprite '{name}' has a non-finite position or direction"
  | unknownCostume sprite costume => invalid s!"sprite '{sprite}' has unknown costume '{costume}'"
  | event error => error.message
  | duplicateId id => invalid s!"duplicate sprite id '{id}'"
  | clickTarget tick id => invalid s!"click at tick {tick} targets unknown sprite id '{id}'"
  | cast error => error.message
where
  invalid (reason : String) : String := s!"Stage validation failed: {reason}"

/-! ## From a scene to a session -/

namespace SceneSprite

/-- The costume that a sprite asks for; one that asks for none gets the first of the catalog. -/
def toCostume (s : SceneSprite) : Except SceneError Costume :=
  match s.costume with
  | none => .ok .cat
  | some name =>
    match Costume.ofName? name with
    | some costume => .ok costume
    | none => .error (.unknownCostume s.name name)

/-- The sprite as it joins a cast, under its own id or else the given one. -/
def toSpec (s : SceneSprite) (fresh : SpriteId) : Except SceneError SpriteSpec := do
  let costume ← s.toCostume
  let program ← (Program.ofEvents s.actions).mapError .event
  return {
    id := s.id.getD fresh
    name := s.name
    costume
    start := .facing s.x s.y s.direction
    program }

end SceneSprite

namespace Scene

def clicksAt (scene : Scene) (tick : Nat) : List SpriteId :=
  (scene.clicks.filter fun click => click.atTick == tick).map (·.sprite)

/-- Adds a sprite to a session; `used` ids have been given to sprites without one. -/
def addSprite (freshId : Nat → SpriteId) (state : Session × Nat) (sprite : SceneSprite) :
    Except SceneError (Session × Nat) := do
  let (session, used) := state
  let spec ← sprite.toSpec (freshId used)
  let session ← (session.add spec).mapError .cast
  return (session, if sprite.id.isSome then used else used + 1)

def build (scene : Scene) (freshId : Nat → SpriteId) : Except SceneError Session :=
  (·.1) <$> scene.sprites.foldlM (addSprite freshId) (.ofSettings scene.settings, 0)

/-! ## Validation -/

def validateSprite (sprite : SceneSprite) : Except SceneError Unit := do
  if !sprite.isNamed then throw .emptyName
  if !sprite.isPlaced then throw (.notFinite sprite.name)
  let _ ← sprite.toSpec ""

/-- Finds the first fault of a sprite that follows sprites with given ids, and adds its id. -/
def validateNext (ids : List SpriteId) (sprite : SceneSprite) :
    Except SceneError (List SpriteId) := do
  validateSprite sprite
  match sprite.id with
  | none => return ids
  | some id => if id ∈ ids then throw (.duplicateId id) else return id :: ids

/-- Finds the first fault of a scene: its version and id, its settings, its sprites one after the
other, and last its clicks, which must target sprites with an id of their own. -/
def validate (scene : Scene) : Except SceneError Unit := do
  if scene.version ≠ supportedVersion then throw (.version scene.version)
  if Text.isEmptyTrimmed scene.stageId then throw .emptyStageId
  scene.settings.validate.mapError .settings
  let ids ← scene.sprites.foldlM validateNext []
  match scene.clicks.find? fun click => click.sprite ∉ ids with
  | some click => throw (.clickTarget click.atTick click.sprite)
  | none => return

end Scene

end SpriteStage
