import SpriteStage.Session.Operation

/-!
# Operations write by write

The operations on a session as computations that write to it where it stands, one write after the
other. A step that fails ends its operation and undoes nothing, so what was written before it stays.
-/

namespace SpriteStage

/-- A computation that writes to a state and may fail, which takes back nothing. -/
abbrev Writing (σ ε : Type) := ExceptT ε (StateM σ)

namespace Writing

variable {σ τ ε α : Type}

/-- What a computation returns, and the state that it leaves. -/
def outcome (x : Writing σ ε α) (s : σ) : Except ε α × σ := StateT.run (ExceptT.run x) s

def read : Writing σ ε σ := get

def write (f : σ → σ) : Writing σ ε Unit := modify f

/-- Writes to a part of the state, which is put back however it goes. -/
def onPart (part : σ → τ) (put : τ → σ → σ) (x : Writing τ ε α) : Writing σ ε α :=
  ExceptT.mk fun s => ((x.outcome (part s)).1, put (x.outcome (part s)).2 s)

end Writing

open Writing

/-! ## Edits of a script -/

/-- Edits the script of a trigger. -/
def Program.Edit.writes (t : Trigger) : Edit → Writing (List Block) EditError (Option Block)
  | .append block => do
    write (· ++ [block])
    return none
  | .remove index => do
    let blocks ← read
    let some block := blocks[index]? | throw (.outOfRange t blocks.length index)
    write (·.eraseIdx index)
    return some block
  | .update index patch => do
    let blocks ← read
    let some block := blocks[index]? | throw (.outOfRange t blocks.length index)
    write (·.set index (block.patched patch))
    return none
  | .reorder source target => do
    let blocks ← read
    let some block := blocks[source]? | throw (.outOfRange t blocks.length source)
    unless target < blocks.length do throw (.outOfRange t blocks.length target)
    write (·.eraseIdx source)
    write (·.insertIdx target block)
    return none
  | .appendToRepeat index block => do
    let blocks ← read
    match blocks[index]? with
    | some (.repeated count body) =>
      write (·.set index (.repeated count (body ++ [block])))
      return none
    | some other => throw (.notRepeat t index other.kind)
    | none => throw (.outOfRange t blocks.length index)

/-! ## Changes of a cast -/

namespace Cast

def writeAdd (spec : SpriteSpec) : Writing Cast CastError Unit := do
  if (← read).contains spec.id then throw (.alreadyThere spec.id)
  write fun c => { c with sprites := c.sprites ++ [.ofSpec c.increment spec] }
  if (← read).selected.isNone then
    write fun c => { c with selected := some (c.sprites.length - 1) }

def writeRemove (id : SpriteId) : Writing Cast CastError Unit := do
  let some position := (← read).position? id | throw (.unknown id)
  write fun c => { c with sprites := c.sprites.eraseIdx position }
  write fun c => { c with selected := selectionAfter c.selected position c.sprites.length }

def writeSelect (id : SpriteId) : Writing Cast CastError Unit := do
  let some position := (← read).position? id | throw (.unknown id)
  write ({ · with selected := some position })

/-- Edits a script of a sprite where it stands, and then makes the program flat again. -/
def writeEdit (id : SpriteId) (t : Trigger) (e : Program.Edit) :
    Writing Cast CastError (Option Block) := do
  let some sprite := (← read).find? id | throw (.unknown id)
  let putBack (blocks : List Block) (c : Cast) : Cast :=
    c.modify id fun s => { s with program := s.program.withScript t blocks }
  let removed ← onPart (fun _ => sprite.program.script t) putBack
    (ExceptT.adapt CastError.edit (e.writes t))
  write fun c => c.modify id fun s => { s with flat := s.program.flatten c.increment }
  return removed

def writeArm (id : SpriteId) (t : Trigger) : Writing Cast CastError Unit := do
  unless (← read).contains id do throw (.unknown id)
  write (·.modify id (·.arm t))

end Cast

/-! ## Operations on a session -/

def Session.onCast {ε α : Type} (x : Writing Cast ε α) : Writing Session ε α :=
  x.onPart (·.cast) fun cast s => { s with cast }

open Session in
/-- Carries out an operation. -/
def Operation.writes : Operation → Writing Session CastError Reply
  | .add spec => do
    onCast (Cast.writeAdd spec)
    return .added spec.id
  | .delete id => do
    onCast (Cast.writeRemove id)
    write fun s => { s with timers := s.timers.cancel id }
    write fun s => { s with monitor := s.monitor.forget id }
    return .done
  | .select id => do
    onCast (Cast.writeSelect id)
    return .done
  | .edit id t e => do
    let removed ← onCast (Cast.writeEdit id t e)
    return removed.elim .done .removed
  | .click id now => do
    let some sprite := (← read).cast.find? id | return .clicked false
    if sprite.flat.click.isEmpty then return .clicked false
    let armed ← tryCatch (do onCast (Cast.writeArm id .click); return true) fun _ => return false
    if !armed then return .clicked false
    unless (← read).clock.isRunning do write fun s => { s with clock := s.clock.start now }
    return .clicked true
  | .play now => do
    write (·.play now)
    return .done
  | .stop => do
    write (·.stop)
    return .done
  | .restart => do
    write (·.restart)
    return .done
  | .advance now => do
    let (ticks, s) := (← read).advance now
    write fun _ => s
    return .ran ticks
  | .step now => do
    write (·.step now)
    return .done

end SpriteStage
