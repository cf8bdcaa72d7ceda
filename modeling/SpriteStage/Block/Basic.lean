import SpriteStage.Binary.Basic

/-!
# Blocks

A block is one instruction of a script. Only `repeated` has blocks inside; a block of a kind that is
not known is kept under its name. Blocks are compared by the numerical equality of their numbers.
-/

namespace SpriteStage

/-- The two kinds of bubbles. -/
inductive BubbleKind where
  | say
  | think
deriving DecidableEq, Inhabited

def BubbleKind.label : BubbleKind → String
  | say => "say"
  | think => "think"

/-- One instruction of a script. -/
inductive Block where
  | move (steps : Single)
  | turn (degrees : Single)
  | goto (x y : Single)
  | speak (kind : BubbleKind) (text : String) (seconds : Single)
  | repeated (count : Int) (body : List Block)
  | unknown (kind : String)
deriving Inhabited

namespace Block

/-- The name of a block's kind. -/
def kind : Block → String
  | move _ => "move"
  | turn _ => "turn"
  | goto .. => "goto"
  | speak kind .. => kind.label
  | repeated .. => "repeat"
  | unknown kind => kind

/-- Seconds that a bubble stays if its block does not say. -/
def defaultSeconds : Single := 1

/-- A block with no blocks inside. -/
def isAtomic : Block → Bool
  | repeated .. => false
  | _ => true

mutual

/-- Equality up to the equality of numbers, which no NaN satisfies. -/
def equals : Block → Block → Bool
  | move a, move b => Binary.equals a b
  | turn a, turn b => Binary.equals a b
  | goto x y, goto x' y' => Binary.equals x x' && Binary.equals y y'
  | speak k t s, speak k' t' s' => k == k' && t == t' && Binary.equals s s'
  | repeated n body, repeated n' body' => n == n' && listEquals body body'
  | unknown a, unknown b => a == b
  | _, _ => false

def listEquals : List Block → List Block → Bool
  | [], [] => true
  | a :: as, b :: bs => equals a b && listEquals as bs
  | _, _ => false

end

/-! ## Changing a block -/

/-- New values for some of a block's numbers and texts. -/
structure Patch where
  steps : Option Single := none
  degrees : Option Single := none
  x : Option Single := none
  y : Option Single := none
  text : Option String := none
  seconds : Option Single := none
  count : Option Int := none
  body : Option (List Block) := none

/-- The block with the values of a patch that belong to its kind. -/
def patched (patch : Patch) : Block → Block
  | move steps => move (patch.steps.getD steps)
  | turn degrees => turn (patch.degrees.getD degrees)
  | goto x y => goto (patch.x.getD x) (patch.y.getD y)
  | speak kind text seconds => speak kind (patch.text.getD text) (patch.seconds.getD seconds)
  | repeated count body => repeated (patch.count.getD count) (patch.body.getD body)
  | unknown kind => unknown kind

/-! ## Palette -/

/-- The blocks of the palette as they are when dropped into a script. -/
def palette : List Block :=
  [move 10, turn (-15), turn 15, goto 0 0, speak .say "Hello" 2, speak .think "Hmm" 2,
    repeated 2 []]

end Block

end SpriteStage
