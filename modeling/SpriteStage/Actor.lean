import SpriteStage.Pose
import SpriteStage.Program.Flat

/-!
# Actors

An actor carries out the flat script of one trigger, one block per tick. It holds the flat program
that it was armed with, so a program that changes reaches it when it is armed again. A say or think
block leaves a bubble and reports how long it should stay; running on never waits for a bubble.
-/

namespace SpriteStage

structure Bubble where
  kind : BubbleKind
  text : String
deriving DecidableEq, Inhabited

/-- The script that an actor is at, and the index of its next block. -/
structure Run where
  trigger : Trigger
  next : Nat
deriving DecidableEq, Inhabited

inductive Phase where
  | idle
  | running
  | finished
deriving DecidableEq, Inhabited

def Phase.label : Phase → String
  | idle => "Idle"
  | running => "Running"
  | finished => "Finished"

inductive Effect where
  /-- There was nothing to carry out. -/
  | none
  /-- A block changed the pose. -/
  | applied
  /-- A bubble appeared, to stay for so many seconds. -/
  | bubble (seconds : Single)
  /-- A block that cannot be carried out was passed over. -/
  | skipped
deriving DecidableEq, Inhabited

structure Actor where
  start : Pose
  armed : FlatProgram := {}
  pose : Pose := start
  bubble : Option Bubble := none
  run : Option Run := none
  /-- Ticks until the actor may take part in a swap again. -/
  cooldown : Nat := 0
deriving Inhabited

namespace Actor

def index (a : Actor) : Int :=
  match a.run with
  | some run => run.next
  | none => -1

def trigger? (a : Actor) : Option Trigger := a.run.map (·.trigger)

def phase (a : Actor) : Phase :=
  match a.run with
  | none => .idle
  | some run => if run.next < (a.armed.script run.trigger).size then .running else .finished

def isIdle (a : Actor) : Bool := a.run.isNone

def isCooling (a : Actor) : Bool := 0 < a.cooldown

/-- Starts a trigger's script from the first block, wherever the actor stands. -/
def armInPlace (a : Actor) (t : Trigger) (program : FlatProgram) : Actor :=
  { a with armed := program, run := some ⟨t, 0⟩ }

/-- Starts a trigger's script; `play` starts at the start pose and without a bubble. -/
def arm (a : Actor) (t : Trigger) (program : FlatProgram) : Actor :=
  match t with
  | .play => { a with pose := a.start, bubble := none }.armInPlace .play program
  | .click => a.armInPlace .click program

def perform (a : Actor) : Block → Actor × Effect
  | .move steps => ({ a with pose := a.pose.advance steps }, .applied)
  | .turn degrees => ({ a with pose := a.pose.turn degrees }, .applied)
  | .goto x y => ({ a with pose := a.pose.goto x y }, .applied)
  | .speak kind text seconds => ({ a with bubble := some ⟨kind, text⟩ }, .bubble seconds)
  | .repeated .. | .unknown _ => (a, .skipped)

/-- One tick: the cooldown runs down, and the next block is carried out if there is one. -/
def tick (a : Actor) : Actor × Effect :=
  let a := { a with cooldown := a.cooldown - 1 }
  match a.run with
  | none => (a, .none)
  | some run =>
    match (a.armed.script run.trigger)[run.next]? with
    | none => (a, .none)
    | some block =>
      let (a, effect) := a.perform block
      ({ a with run := some ⟨run.trigger, run.next + 1⟩ }, effect)

/-- Back to the start pose, with nothing to carry out; the program armed last is kept. -/
def restart (a : Actor) : Actor := { start := a.start, armed := a.armed }

def clearBubble (a : Actor) : Actor := { a with bubble := none }

end Actor

end SpriteStage
