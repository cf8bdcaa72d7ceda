/-!
# Triggers

The two events that arm a sprite's scripts.
-/

namespace SpriteStage

inductive Trigger where
  | play
  | click
deriving DecidableEq, Inhabited

namespace Trigger

def all : List Trigger := [play, click]

def label : Trigger → String
  | play => "play"
  | click => "click"

def ofName? : String → Option Trigger
  | "play" => some play
  | "click" => some click
  | _ => none

/-- The trigger that this one is not. -/
def other : Trigger → Trigger
  | play => click
  | click => play

@[simp] theorem other_other (t : Trigger) : t.other.other = t := by cases t <;> rfl

theorem ofName?_label (t : Trigger) : ofName? t.label = some t := by cases t <;> rfl

end Trigger

end SpriteStage
