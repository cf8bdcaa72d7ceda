import SpriteStage.Cast

/-!
# Operations on a cast

Everything that is done to a cast, as a value: its sprites come and go, their programs are edited,
their actors run. An operation is carried out or rejected; a rejected one leaves the cast as it was.
-/

namespace SpriteStage.Cast

/-- Something that can be done to a cast. -/
inductive Operation where
  | add (spec : SpriteSpec)
  | remove (id : SpriteId)
  | select (id : SpriteId)
  | edit (id : SpriteId) (t : Trigger) (e : Program.Edit)
  | arm (id : SpriteId) (t : Trigger)
  | armAll (t : Trigger)
  | restartAll
  /-- One tick of one sprite. -/
  | act (id : SpriteId)
  | clearBubble (id : SpriteId)
  | swap (a b : SpriteId) (cooldown : Nat)
deriving Inhabited

/-- What a cast is after a change that may have been rejected. -/
def accept {ε : Type} (c : Cast) : Except ε Cast → Cast
  | .ok c' => c'
  | .error _ => c

/-- The cast after an operation, carried out or rejected. One on a sprite that is not there does
nothing. -/
def after (c : Cast) : Operation → Cast
  | .add spec => c.accept (c.add spec)
  | .remove id => c.accept (c.remove id)
  | .select id => c.accept (c.select id)
  | .edit id t e => c.accept ((c.edit id t e).map (·.2))
  | .arm id t => c.modify id (·.arm t)
  | .armAll t => c.armAll t
  | .restartAll => c.restartAll
  | .act id => c.modify id fun s => { s with actor := s.actor.tick.1 }
  | .clearBubble id => c.modify id (·.clearBubble)
  | .swap a b cooldown => c.accept (c.swap a b cooldown)

/-- The cast after operations, one after the other. -/
def afterAll (c : Cast) (ops : List Operation) : Cast := ops.foldl after c

end SpriteStage.Cast
