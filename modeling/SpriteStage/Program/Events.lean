import SpriteStage.Block.Editor
import SpriteStage.Program.Basic

/-!
# Programs from the editor's events

The editor writes a program as a list of events, each with its blocks. An event must name a trigger,
and no trigger may have two events.
-/

namespace SpriteStage

/-- An event as the editor writes it. -/
structure EditorEvent where
  event : String
  actions : List EditorBlock
deriving Inhabited

/-- The record that the editor writes for an event. -/
def EditorEvent.record : Json.Record EditorEvent where
  name := "EventActionsJson"
  initial := ⟨"", []⟩
  fields := [
    .required "event" Json.Decoder.string fun event e => { e with event },
    .optional "actions" (.list EditorBlock.record.decode) fun actions e => { e with actions }]

/-- Why events do not make a program. -/
inductive EventError where
  | unknown (event : String)
  | duplicate (event : String)
deriving DecidableEq

def EventError.message : EventError → String
  | unknown event => s!"Program validation failed: unknown event '{event}'"
  | duplicate event => s!"Program validation failed: duplicate event '{event}'"

namespace Program

/-- The program with the blocks of an event, and the triggers that have had one. -/
def addEvent (state : Program × List Trigger) (e : EditorEvent) :
    Except EventError (Program × List Trigger) :=
  match Trigger.ofName? e.event with
  | none => .error (.unknown e.event)
  | some t =>
    if t ∈ state.2 then .error (.duplicate e.event)
    else .ok (state.1.withScript t (e.actions.map Block.ofEditor), t :: state.2)

/-- The program that a list of events spells. -/
def ofEvents (events : List EditorEvent) : Except EventError Program :=
  (·.1) <$> events.foldlM addEvent ({}, [])

/-- The remarks on the blocks of events that follow events of given triggers, up to the first event
that cannot stand. -/
def eventRemarks (seen : List Trigger) : List EditorEvent → List EditorRemark
  | [] => []
  | e :: events =>
    match Trigger.ofName? e.event with
    | none => []
    | some t =>
      if t ∈ seen then []
      else e.actions.flatMap EditorBlock.remarks ++ eventRemarks (t :: seen) events

end Program

end SpriteStage
