import SpriteStage.Settings

/-!
# Sessions

A session is a stage with everything that runs on it. In each tick every sprite acts once, in the
order of the cast; after every so many ticks the contact monitor scans the poses reached, and
encounters swap programs. Bubbles are cleared once per call of `advance` or `step`, by their
deadlines and not by ticks.
-/

namespace SpriteStage

structure Session where
  settings : Settings := {}
  cast : Cast := {}
  monitor : Monitor := {}
  timers : BubbleTimers := {}
  clock : Clock := default
  /-- Ticks run since the session was made. -/
  ticks : Nat := 0
  /-- Ticks run since the last scan. -/
  sinceScan : Nat := 0
  /-- Encounters that swapped since the session was made. -/
  swaps : Nat := 0
deriving Inhabited

namespace Session

def ofSettings (settings : Settings) : Session :=
  let clock := Clock.ofPeriod settings.tickPeriod
  { settings
    cast := { increment := .ofSingle settings.moveIncrement }
    monitor := { mode := settings.contact, spriteSize := settings.spriteSize }
    clock := { clock with longestFrame := max settings.longestFrame clock.period } }

def isPlaying (s : Session) : Bool := s.clock.isRunning

/-! ## Sprites -/

def add (s : Session) (spec : SpriteSpec) : Except CastError Session :=
  (fun cast => { s with cast }) <$> s.cast.add spec

/-- Removes a sprite with its timer and all memory of its contacts. -/
def delete (s : Session) (id : SpriteId) : Except CastError Session :=
  (fun cast => { s with cast, timers := s.timers.cancel id, monitor := s.monitor.forget id }) <$>
    s.cast.remove id

def select (s : Session) (id : SpriteId) : Except CastError Session :=
  (fun cast => { s with cast }) <$> s.cast.select id

/-- Edits the program of a sprite, which reaches its actor when it is armed again. -/
def edit (s : Session) (id : SpriteId) (t : Trigger) (e : Program.Edit) :
    Except CastError (Option Block × Session) :=
  (fun (removed, cast) => (removed, { s with cast })) <$> s.cast.edit id t e

/-! ## Starting and stopping -/

/-- Starts afresh: every sprite runs `play` from its start pose, with no contact remembered. -/
def play (s : Session) (now : Instant) : Session :=
  { s with
    cast := s.cast.armAll .play
    monitor := s.monitor.reset
    timers := {}
    clock := s.clock.start now
    sinceScan := 0 }

/-- Halts the clock and drops the timers; the sprites stay as they are. -/
def stop (s : Session) : Session := { s with clock := s.clock.stop, timers := {} }

/-- Halts, puts every sprite back to its start, and forgets all contacts. -/
def restart (s : Session) : Session :=
  { s with
    cast := s.cast.restartAll
    monitor := s.monitor.reset
    timers := {}
    clock := s.clock.stop
    sinceScan := 0 }

/-- Whether a click on a sprite does anything: it is there and has something to run on a click. -/
def isClickable (s : Session) (id : SpriteId) : Bool :=
  (s.cast.find? id).any fun sprite => !sprite.flat.click.isEmpty

/-- Arms a sprite's click script and starts the clock if it is stopped. A click on a sprite that is
not clickable does nothing. -/
def click (s : Session) (id : SpriteId) (now : Instant) : Session :=
  if s.isClickable id then
    { s with
      cast := s.cast.modify id (·.arm .click)
      clock := if s.clock.isRunning then s.clock else s.clock.start now }
  else
    s

/-! ## Ticks -/

def act (s : Session) (now : Instant) : Session :=
  let acted := s.cast.sprites.map fun sprite =>
    let (actor, effect) := sprite.actor.tick
    ({ sprite with actor }, effect)
  let schedule (timers : BubbleTimers) : Sprite × Effect → BubbleTimers
    | (sprite, .bubble seconds) => timers.schedule sprite.id now seconds
    | _ => timers
  { s with
    cast := { s.cast with sprites := acted.map (·.1) }
    timers := acted.foldl schedule s.timers }

def scan (s : Session) : Session :=
  let (swapped, monitor, cast) := s.monitor.coordinate s.cast s.settings.swapCooldown
  { s with cast, monitor, sinceScan := 0, swaps := s.swaps + swapped.length }

def tick (s : Session) (now : Instant) : Session :=
  let s := s.act now
  let s := { s with ticks := s.ticks + 1, sinceScan := s.sinceScan + 1 }
  if max s.settings.scanEvery 1 ≤ s.sinceScan then s.scan else s

def tickTimes (s : Session) (now : Instant) : Nat → Session
  | 0 => s
  | count + 1 => (s.tick now).tickTimes now count

def expireBubbles (s : Session) (now : Instant) : Session :=
  let expired := s.timers.expired now
  { s with
    timers := s.timers.dropExpired now
    cast := expired.foldl (fun cast id => cast.modify id (·.clearBubble)) s.cast }

/-- Feeds time in and runs every tick that has become due; it returns how many there were. -/
def advance (s : Session) (now : Instant) : Nat × Session :=
  let clock := s.clock.beginFrame now
  let count := clock.due
  let s := ({ s with clock := clock.drain }).tickTimes now count
  (count, s.expireBubbles now)

/-- Runs one tick, whatever the clock says. -/
def step (s : Session) (now : Instant) : Session := (s.tick now).expireBubbles now

end Session

end SpriteStage
