import SpriteStage.Sprite

/-!
# The cast of a stage

The sprites of a stage in the order in which they were added, which is also the order in which they
act, with the one that is selected. Programs are made flat whenever they change.
-/

namespace SpriteStage

structure Cast where
  sprites : List Sprite := []
  /-- The position of the selected sprite. -/
  selected : Option Nat := none
  increment : Increment := .standard
deriving Inhabited

inductive CastError where
  | alreadyThere (id : SpriteId)
  | unknown (id : SpriteId)
  | edit (error : EditError)
deriving DecidableEq

def CastError.message : CastError → String
  | alreadyThere id => s!"Sprite '{id}' already exists"
  | unknown id => s!"Unknown sprite '{id}'"
  | edit error => error.message

inductive SwapError where
  | gone (id : SpriteId)
  | itself (id : SpriteId)
deriving DecidableEq

def SwapError.message : SwapError → String
  | gone id => s!"Swap skipped: sprite '{id}' no longer exists"
  | itself id => s!"Swap skipped: '{id}' cannot swap with itself"

namespace Cast

def find? (c : Cast) (id : SpriteId) : Option Sprite := c.sprites.find? (·.id == id)

def position? (c : Cast) (id : SpriteId) : Option Nat := c.sprites.findIdx? (·.id == id)

def contains (c : Cast) (id : SpriteId) : Bool := c.sprites.any (·.id == id)

def ids (c : Cast) : List SpriteId := c.sprites.map (·.id)

def modify (c : Cast) (id : SpriteId) (f : Sprite → Sprite) : Cast :=
  { c with sprites := c.sprites.map fun s => if s.id = id then f s else s }

/-- Adds a sprite at the end. It is selected if nothing was. -/
def add (c : Cast) (spec : SpriteSpec) : Except CastError Cast :=
  if c.contains spec.id then
    .error (.alreadyThere spec.id)
  else
    .ok { c with
      sprites := c.sprites ++ [.ofSpec c.increment spec]
      selected := c.selected.or (some c.sprites.length) }

/-- The selection after the sprite at `removed` is gone and `left` sprites are left: the same sprite
where possible, and else the first. -/
def selectionAfter (selected : Option Nat) (removed left : Nat) : Option Nat :=
  if left = 0 then
    none
  else
    selected.map fun position =>
      if removed < position then position - 1 else if removed = position then 0 else position

def remove (c : Cast) (id : SpriteId) : Except CastError Cast :=
  match c.position? id with
  | none => .error (.unknown id)
  | some position =>
    .ok { c with
      sprites := c.sprites.eraseIdx position
      selected := selectionAfter c.selected position (c.sprites.length - 1) }

def select (c : Cast) (id : SpriteId) : Except CastError Cast :=
  match c.position? id with
  | none => .error (.unknown id)
  | some position => .ok { c with selected := some position }

def selection? (c : Cast) : Option Sprite := c.selected.bind fun position => c.sprites[position]?

/-- Edits the program of a sprite; it returns the block that was removed, if one was. -/
def edit (c : Cast) (id : SpriteId) (t : Trigger) (e : Program.Edit) :
    Except CastError (Option Block × Cast) :=
  match c.find? id with
  | none => .error (.unknown id)
  | some s =>
    match s.program.edit t e with
    | .error error => .error (.edit error)
    | .ok (removed, program) =>
      .ok (removed, c.modify id fun s => s.withProgram c.increment program)

/-! ## Running -/

def armAll (c : Cast) (t : Trigger) : Cast := { c with sprites := c.sprites.map (·.arm t) }

def restartAll (c : Cast) : Cast := { c with sprites := c.sprites.map (·.restart) }

/-- Exchanges the programs of two sprites, their active scripts with each other and their other
scripts with each other, and puts both on a cooldown. -/
def swap (c : Cast) (a b : SpriteId) (cooldown : Nat) : Except SwapError Cast :=
  match c.find? a, c.find? b with
  | none, _ => .error (.gone a)
  | some _, none => .error (.gone b)
  | some s, some t =>
    if a = b then
      .error (.itself a)
    else
      let (forA, forB) := s.program.exchange s.activeTrigger t.program t.activeTrigger
      .ok ((c.modify a fun s => s.takeOver c.increment forA cooldown).modify b
        fun t => t.takeOver c.increment forB cooldown)

end Cast

end SpriteStage
