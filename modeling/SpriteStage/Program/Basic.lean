import SpriteStage.Block.Basic
import SpriteStage.Trigger

/-!
# Programs and their edits

A program has one list of blocks for each trigger. An edit that names a position outside its list,
or a block that is not a repeat where one is needed, is rejected with the program unchanged.
-/

namespace SpriteStage

structure Program where
  play : List Block := []
  click : List Block := []
deriving Inhabited

inductive EditError where
  | outOfRange (trigger : Trigger) (length index : Nat)
  | notRepeat (trigger : Trigger) (index : Nat) (kind : String)
deriving DecidableEq

def EditError.message : EditError → String
  | outOfRange trigger length index =>
    s!"Edit rejected: {trigger.label} has {length} blocks, index {index} is out of range"
  | notRepeat trigger index kind =>
    s!"Edit rejected: {trigger.label} block {index} is '{kind}', not 'repeat'"

namespace Program

def script (p : Program) : Trigger → List Block
  | .play => p.play
  | .click => p.click

def withScript (p : Program) (t : Trigger) (blocks : List Block) : Program :=
  match t with
  | .play => { p with play := blocks }
  | .click => { p with click := blocks }

@[simp] theorem script_withScript_self (p : Program) (t : Trigger) (blocks : List Block) :
    (p.withScript t blocks).script t = blocks := by
  cases t <;> rfl

@[simp] theorem script_withScript_other (p : Program) (t : Trigger) (blocks : List Block) :
    (p.withScript t blocks).script t.other = p.script t.other := by
  cases t <;> rfl

@[simp] theorem withScript_withScript (p : Program) (t : Trigger) (blocks blocks' : List Block) :
    (p.withScript t blocks).withScript t blocks' = p.withScript t blocks' := by
  cases t <;> rfl

@[simp] theorem withScript_script (p : Program) (t : Trigger) :
    p.withScript t (p.script t) = p := by
  cases t <;> rfl

def equals (p q : Program) : Bool :=
  Block.listEquals p.play q.play && Block.listEquals p.click q.click

/-! ## Edits -/

def append (p : Program) (t : Trigger) (block : Block) : Program :=
  p.withScript t (p.script t ++ [block])

def remove (p : Program) (t : Trigger) (index : Nat) : Except EditError (Block × Program) :=
  let blocks := p.script t
  match blocks[index]? with
  | some block => .ok (block, p.withScript t (blocks.eraseIdx index))
  | none => .error (.outOfRange t blocks.length index)

/-- Puts the values of a patch into the block at an index. -/
def update (p : Program) (t : Trigger) (index : Nat) (patch : Block.Patch) :
    Except EditError Program :=
  let blocks := p.script t
  match blocks[index]? with
  | some block => .ok (p.withScript t (blocks.set index (block.patched patch)))
  | none => .error (.outOfRange t blocks.length index)

/-- Takes the block at `source` out of the list and puts it back so that it stands at `target`. -/
def reorder (p : Program) (t : Trigger) (source target : Nat) : Except EditError Program :=
  let blocks := p.script t
  match blocks[source]? with
  | some block =>
    if target < blocks.length then
      .ok (p.withScript t ((blocks.eraseIdx source).insertIdx target block))
    else
      .error (.outOfRange t blocks.length target)
  | none => .error (.outOfRange t blocks.length source)

/-- Puts a block at the end of the body of the repeat at an index. -/
def appendToRepeat (p : Program) (t : Trigger) (index : Nat) (block : Block) :
    Except EditError Program :=
  let blocks := p.script t
  match blocks[index]? with
  | some (.repeated count body) =>
    .ok (p.withScript t (blocks.set index (.repeated count (body ++ [block]))))
  | some other => .error (.notRepeat t index other.kind)
  | none => .error (.outOfRange t blocks.length index)

inductive Edit where
  | append (block : Block)
  | remove (index : Nat)
  | update (index : Nat) (patch : Block.Patch)
  | reorder (source target : Nat)
  | appendToRepeat (index : Nat) (block : Block)
deriving Inhabited

/-- Carries out an edit of a trigger's script; it returns the block that was removed, if one was. -/
def edit (p : Program) (t : Trigger) : Edit → Except EditError (Option Block × Program)
  | .append block => .ok (none, p.append t block)
  | .remove index => (p.remove t index).map fun (block, p) => (some block, p)
  | .update index patch => (p.update t index patch).map (none, ·)
  | .reorder source target => (p.reorder t source target).map (none, ·)
  | .appendToRepeat index block => (p.appendToRepeat t index block).map (none, ·)

/-! ## Exchanging scripts -/

/-- The program whose script for `target` is this one's for `source`, and whose other script is
this one's other. -/
def realign (p : Program) (source target : Trigger) : Program :=
  if source = target then p else { play := p.click, click := p.play }

/-- Two programs with their scripts for `mine` and `theirs` exchanged, and their other scripts
exchanged too. -/
def exchange (p : Program) (mine : Trigger) (q : Program) (theirs : Trigger) : Program × Program :=
  (q.realign theirs mine, p.realign mine theirs)

theorem script_realign (p : Program) (source target : Trigger) :
    (p.realign source target).script target = p.script source := by
  cases source <;> cases target <;> rfl

theorem script_realign_other (p : Program) (source target : Trigger) :
    (p.realign source target).script target.other = p.script source.other := by
  cases source <;> cases target <;> rfl

end Program

end SpriteStage
