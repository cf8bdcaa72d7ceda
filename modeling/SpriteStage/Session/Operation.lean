import SpriteStage.Session.Basic

/-!
# Operations on a session

Everything that can be done to a session from outside, as a value. An operation is performed with a
reply or rejected; a rejected one leaves the session as it was (`after_of_error`). The reachable
sessions are those that operations lead to from a session without sprites.
-/

namespace SpriteStage

/-- Something that can be done to a session. -/
inductive Operation where
  | add (spec : SpriteSpec)
  | delete (id : SpriteId)
  | select (id : SpriteId)
  | edit (id : SpriteId) (t : Trigger) (e : Program.Edit)
  | play (now : Instant)
  | stop
  | restart
  | click (id : SpriteId) (now : Instant)
  | advance (now : Instant)
  | step (now : Instant)
deriving Inhabited

/-- What an operation returns. -/
inductive Reply where
  | done
  | added (id : SpriteId)
  | removed (block : Block)
  | clicked (armed : Bool)
  | ran (ticks : Nat)
deriving Inhabited

namespace Session

/-- Performs an operation. -/
def perform (s : Session) : Operation → Except CastError (Reply × Session)
  | .add spec => (s.add spec).map (.added spec.id, ·)
  | .delete id => (s.delete id).map (.done, ·)
  | .select id => (s.select id).map (.done, ·)
  | .edit id t e => (s.edit id t e).map fun (removed, s) => (removed.elim .done .removed, s)
  | .play now => .ok (.done, s.play now)
  | .stop => .ok (.done, s.stop)
  | .restart => .ok (.done, s.restart)
  | .click id now => .ok (.clicked (s.isClickable id), s.click id now)
  | .advance now => .ok ((s.advance now).map .ran id)
  | .step now => .ok (.done, s.step now)

/-- The session after an operation, performed or rejected. -/
def after (s : Session) (op : Operation) : Session :=
  match s.perform op with
  | .ok (_, s) => s
  | .error _ => s

theorem after_of_error {s : Session} {op : Operation} {e : CastError}
    (h : s.perform op = .error e) : s.after op = s := by
  simp [after, h]

theorem after_of_ok {s t : Session} {op : Operation} {r : Reply}
    (h : s.perform op = .ok (r, t)) : s.after op = t := by
  simp [after, h]

/-- The session after operations, one after the other. -/
def afterAll (s : Session) (ops : List Operation) : Session := ops.foldl after s

/-- The sessions that operations lead to. -/
inductive Reachable : Session → Prop where
  | new (settings : Settings) : Reachable (ofSettings settings)
  | after {s : Session} (op : Operation) : Reachable s → Reachable (s.after op)

theorem Reachable.afterAll {s : Session} (h : Reachable s) (ops : List Operation) :
    Reachable (s.afterAll ops) := by
  induction ops generalizing s with
  | nil => exact h
  | cons op ops ih => exact ih (h.after op)

end Session

end SpriteStage
