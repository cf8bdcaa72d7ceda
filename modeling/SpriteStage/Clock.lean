import SpriteStage.Duration

/-!
# The tick clock

Time is counted in whole nanoseconds, so ticks never drift. A frame feeds the time since the frame
before it into the clock, but no more than `longestFrame`; a tick is due for each whole period that
has accumulated. A clock that is stopped takes no time in.
-/

namespace SpriteStage

structure Clock where
  period : Duration
  period_pos : 0 < period
  longestFrame : Duration
  accumulated : Duration := 0
  last : Option Instant := none
  ticks : Nat := 0
  frames : Nat := 0
  frameTicks : Nat := 0
  frameTime : Duration := 0
deriving DecidableEq

namespace Clock

def defaultPeriod : Duration := milliseconds 50

def defaultLongestFrame : Duration := milliseconds 250

/-- A stopped clock with a period; a period of zero stands for the default one. -/
def ofPeriod (period : Duration) : Clock :=
  if h : 0 < period then
    { period, period_pos := h, longestFrame := max defaultLongestFrame period }
  else
    { period := defaultPeriod, period_pos := by decide, longestFrame := defaultLongestFrame }

instance : Inhabited Clock := ⟨ofPeriod defaultPeriod⟩

/-- Runs the clock from an instant on, with nothing accumulated and nothing counted. -/
def start (c : Clock) (now : Instant) : Clock :=
  { c with last := some now, accumulated := 0, ticks := 0, frames := 0, frameTicks := 0 }

def stop (c : Clock) : Clock := { c with last := none, accumulated := 0, frameTicks := 0 }

def isRunning (c : Clock) : Bool := c.last.isSome

/-- Feeds in the time since the last frame; an instant before that frame adds none. -/
def beginFrame (c : Clock) (now : Instant) : Clock :=
  match c.last with
  | none => { c with frameTicks := 0, frameTime := 0 }
  | some last =>
    let time := min (now - last) c.longestFrame
    { c with
      last := some now
      accumulated := c.accumulated + time
      frames := c.frames + 1
      frameTicks := 0
      frameTime := time }

def due (c : Clock) : Nat := if c.isRunning then c.accumulated / c.period else 0

/-- Takes ticks out of the accumulated time and counts them. -/
def take (c : Clock) (count : Nat) : Clock :=
  { c with
    accumulated := c.accumulated - count * c.period
    ticks := c.ticks + count
    frameTicks := c.frameTicks + count }

def tick? (c : Clock) : Option Clock := if 0 < c.due then some (c.take 1) else none

def drain (c : Clock) : Clock := c.take c.due

def untilTick (c : Clock) : Duration := c.period - c.accumulated

/-! ## Starting, stopping and draining -/

@[simp] theorem isRunning_start (c : Clock) (now : Instant) : (c.start now).isRunning = true := rfl

@[simp] theorem isRunning_stop (c : Clock) : c.stop.isRunning = false := rfl

@[simp] theorem isRunning_beginFrame (c : Clock) (now : Instant) :
    (c.beginFrame now).isRunning = c.isRunning := by
  unfold beginFrame isRunning
  cases c.last <;> rfl

@[simp] theorem isRunning_take (c : Clock) (count : Nat) : (c.take count).isRunning = c.isRunning :=
  rfl

theorem due_of_not_isRunning {c : Clock} (h : c.isRunning = false) : c.due = 0 := by
  simp [due, h]

theorem due_of_isRunning {c : Clock} (h : c.isRunning = true) :
    c.due = c.accumulated / c.period := by
  simp [due, h]

/-- Draining leaves what does not make a whole period. -/
theorem accumulated_drain {c : Clock} (h : c.isRunning = true) :
    c.drain.accumulated = c.accumulated % c.period := by
  rw [drain, take, due_of_isRunning h, Nat.mod_eq_sub_div_mul]

end Clock

end SpriteStage
