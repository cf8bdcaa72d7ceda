import SpriteStage.Clock
import SpriteStage.Contact.Monitor
import SpriteStage.Json.Decode

/-!
# Settings of a stage

The numbers that a stage file can set, their defaults, and which values a valid file may give them.
Every field may be left out.
-/

namespace SpriteStage

structure Settings where
  tickPeriodMs : Nat := 50
  /-- A scan for contacts runs after every so many ticks. -/
  scanEvery : Nat := 1
  spriteSize : Single := defaultSpriteSize
  contact : ContactMode := .touch
  /-- Ticks for which a swap keeps its sprites from swapping again. -/
  swapCooldown : Nat := 0
  longestFrameMs : Nat := 250
  moveIncrement : Single := 10
deriving DecidableEq, Inhabited

/-- What is wrong with settings. -/
inductive SettingsError where
  | noTickPeriod
  | noScans
  | spriteSize (size : Single)
  | moveIncrement (increment : Single)
deriving DecidableEq

def SettingsError.message : SettingsError → String
  | noTickPeriod => "Stage config validation failed: tick_period_ms must be > 0"
  | noScans => "Stage config validation failed: collision_every_ticks must be >= 1"
  | spriteSize size =>
    s!"Stage config validation failed: sprite_size must be positive, got {size.display}"
  | moveIncrement increment =>
    s!"Stage config validation failed: max_move_increment must be positive, got {increment.display}"

namespace Settings

/-- The record in which a stage file gives its settings. -/
def record : Json.Record Settings where
  name := "StageConfig"
  initial := {}
  fields := [
    .optional "tick_period_ms" .natural64 fun v s => { s with tickPeriodMs := v },
    .optional "collision_every_ticks" .natural32 fun v s => { s with scanEvery := v },
    .optional "sprite_size" .single fun v s => { s with spriteSize := v },
    .optional "contact" (.choice (ContactMode.all.map fun mode => (mode.label, mode)))
      fun v s => { s with contact := v },
    .optional "swap_cooldown_ticks" .natural32 fun v s => { s with swapCooldown := v },
    .optional "max_accumulated_ms" .natural64 fun v s => { s with longestFrameMs := v },
    .optional "max_move_increment" .single fun v s => { s with moveIncrement := v }]

/-- A number that is finite and above zero. -/
def isPositive (x : Single) : Bool := x.isFinite ∧ 0 < x

/-- Finds the first fault of settings, if they have one. -/
def validate (s : Settings) : Except SettingsError Unit :=
  if s.tickPeriodMs = 0 then .error .noTickPeriod
  else if s.scanEvery = 0 then .error .noScans
  else if !isPositive s.spriteSize then .error (.spriteSize s.spriteSize)
  else if !isPositive s.moveIncrement then .error (.moveIncrement s.moveIncrement)
  else .ok ()

def tickPeriod (s : Settings) : Duration := milliseconds s.tickPeriodMs

def longestFrame (s : Settings) : Duration := milliseconds s.longestFrameMs

/-- Whether the longest frame is shorter than a tick, so that a tick takes its place. -/
def hasShortFrames (s : Settings) : Bool := s.longestFrameMs < s.tickPeriodMs

end Settings

end SpriteStage
