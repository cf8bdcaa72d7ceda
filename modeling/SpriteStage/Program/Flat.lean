import SpriteStage.Decimal.Text
import SpriteStage.Program.Basic

/-!
# Flat programs

What a sprite executes is a program made flat: repeats are written out, moves are cut into pieces no
longer than an increment, and numbers that are not finite are replaced. A repeat with a count below
one runs once. Each script is cut off after `greatestLength` blocks.

A script is built front to back in an `Output`, which stops taking blocks once one did not fit, and
which collects the remarks that there are to make on replaced numbers.
-/

namespace SpriteStage

/-- The longest distance of one move: a finite positive number. -/
structure Increment where
  units : Nat
  held : Format.single.Holds units
  units_pos : 0 < units

namespace Increment

def standard : Increment := ⟨10 * 2 ^ (149 : Nat), by decide, by decide⟩

/-- A number as an increment; one that is not finite and positive stands for the standard. -/
def ofSingle : Single → Increment
  | .finite false units held => if h : 0 < units then ⟨units, held, h⟩ else standard
  | _ => standard

def toSingle (i : Increment) : Single := .finite false i.units i.held

end Increment

/-- A distance cut into moves: so many whole steps, then one last step. It does not fit if the whole
distance takes more moves than there is room for. -/
structure Pieces where
  wholes : Nat
  step : Single
  last : Single
  fits : Bool
deriving DecidableEq

/-- Cuts a distance into moves no longer than an increment, of which there are at most `room`. The
number of moves and the last step are computed with 64 bits. -/
def Increment.cut (i : Increment) (steps : Single) (room : Nat) : Pieces :=
  let increment : Double := i.toSingle.convert
  let total : Double := steps.convert.abs
  let sign : Double := steps.signum.convert
  let needed := (total / increment).ceil.greater 1
  let fits := decide (needed ≤ .ofInt room)
  let count := if fits then (needed.truncate 0 (2 ^ (64 : Nat) - 1)).toNat else room
  let last :=
    if fits then (total - .ofInt ↑(count - 1) * increment).clamp 0 increment else increment
  { wholes := count - 1, step := (sign * increment).convert, last := (sign * last).convert, fits }

structure FlatProgram where
  play : Array Block := #[]
  click : Array Block := #[]
deriving Inhabited

namespace FlatProgram

def greatestLength : Nat := 100000

def script (p : FlatProgram) : Trigger → Array Block
  | .play => p.play
  | .click => p.click

def toProgram (p : FlatProgram) : Program := { play := p.play.toList, click := p.click.toList }

def equals (p q : FlatProgram) : Bool := p.toProgram.equals q.toProgram

/-! ## Building a script -/

inductive Remark where
  | notFinite (kind : String) (value default : Single)
  | bubbleSeconds (seconds : Single)
  | cutOff (t : Trigger)
deriving DecidableEq

def Remark.message : Remark → String
  | notFinite kind value default =>
    s!"Non-finite '{kind}' payload ({value.display}); using {default.display}"
  | bubbleSeconds seconds =>
    s!"Invalid bubble duration {seconds.display}; using {Block.defaultSeconds.display}s"
  | cutOff t =>
    s!"'{t.label}' program expands past {greatestLength} instructions; truncated"

/-- A flat script so far, how many more blocks fit, whether every one so far did, and the remarks
on it. -/
structure Output where
  blocks : Array Block
  room : Nat
  complete : Bool
  remarks : Array Remark

namespace Output

def start (room : Nat) : Output := { blocks := #[], room, complete := true, remarks := #[] }

def push (block : Block) : Output → Output
  | ⟨blocks, room + 1, complete, remarks⟩ => ⟨blocks.push block, room, complete, remarks⟩
  | ⟨blocks, 0, _, remarks⟩ => ⟨blocks, 0, false, remarks⟩

/-- Appends the moves that a distance takes, as many as fit. -/
def pushMove (i : Increment) (steps : Single) : Output → Output
  | ⟨blocks, 0, _, remarks⟩ => ⟨blocks, 0, false, remarks⟩
  | ⟨blocks, room, complete, remarks⟩ =>
    let pieces := i.cut steps room
    let wholes := Array.replicate pieces.wholes (.move pieces.step)
    { blocks := (blocks ++ wholes).push (.move pieces.last)
      room := room - (pieces.wholes + 1)
      complete := complete && pieces.fits
      remarks }

theorem pushMove_zero (i : Increment) (steps : Single) (blocks : Array Block) (complete : Bool)
    (remarks : Array Remark) :
    pushMove i steps ⟨blocks, 0, complete, remarks⟩ = ⟨blocks, 0, false, remarks⟩ := rfl

theorem pushMove_succ (i : Increment) (steps : Single) (blocks : Array Block) (room : Nat)
    (complete : Bool) (remarks : Array Remark) :
    pushMove i steps ⟨blocks, room + 1, complete, remarks⟩ =
      { blocks := (blocks ++ Array.replicate (i.cut steps (room + 1)).wholes
            (Block.move (i.cut steps (room + 1)).step)).push
          (.move (i.cut steps (room + 1)).last)
        room := room + 1 - ((i.cut steps (room + 1)).wholes + 1)
        complete := complete && (i.cut steps (room + 1)).fits
        remarks } := rfl

/-- Runs a pass over and over, until it was run so often, did not fit, or added nothing. -/
def passes (pass : Output → Output) : Nat → Output → Output
  | 0, o => o
  | count + 1, o =>
    let room := o.room
    let after := pass o
    if after.complete && decide (after.room < room) then passes pass count after else after

def remark (r : Remark) (o : Output) : Output := { o with remarks := o.remarks.push r }

end Output

/-- A number, or a default in place of one that is not finite. -/
def finiteOr (default value : Single) : Single := if value.isFinite then value else default

def isBubbleSeconds (seconds : Single) : Bool := seconds.isFinite ∧ 0 ≤ seconds

/-- The seconds of a bubble: finite and not negative, or else the default. -/
def bubbleSeconds (seconds : Single) : Single :=
  if isBubbleSeconds seconds then seconds else Block.defaultSeconds

namespace Output

/-- Remarks on a number for which zero stands if it is not finite. -/
def checkFinite (kind : String) (value : Single) (o : Output) : Output :=
  if value.isFinite then o else o.remark (.notFinite kind value 0)

def checkSeconds (seconds : Single) (o : Output) : Output :=
  if isBubbleSeconds seconds then o else o.remark (.bubbleSeconds seconds)

end Output

mutual

def flattenBlock (i : Increment) : Block → Output → Output
  | .move steps, o =>
    let o := o.checkFinite "move" steps
    let steps := finiteOr 0 steps
    if steps.equals 0 then o.push (.move 0) else o.pushMove i steps
  | .turn degrees, o => (o.checkFinite "turn" degrees).push (.turn (finiteOr 0 degrees))
  | .goto x y, o =>
    ((o.checkFinite "goto" x).checkFinite "goto" y).push (.goto (finiteOr 0 x) (finiteOr 0 y))
  | .speak kind text seconds, o =>
    (o.checkSeconds seconds).push (.speak kind text (bubbleSeconds seconds))
  | .repeated count body, o => o.passes (flattenBlocks i body) (max count 1).toNat
  | .unknown kind, o => o.push (.unknown kind)

/-- Appends what blocks amount to, up to the first that does not fit. -/
def flattenBlocks (i : Increment) : List Block → Output → Output
  | [], o => o
  | block :: blocks, o =>
    let o := flattenBlock i block o
    if o.complete then flattenBlocks i blocks o else o

end

def output (i : Increment) (blocks : List Block) : Output :=
  flattenBlocks i blocks (.start greatestLength)

def flatScript (i : Increment) (blocks : List Block) : Array Block := (output i blocks).blocks

end FlatProgram

def Program.flatten (p : Program) (i : Increment) : FlatProgram where
  play := FlatProgram.flatScript i p.play
  click := FlatProgram.flatScript i p.click

def Program.flatRemarks (p : Program) (i : Increment) : List FlatProgram.Remark :=
  Trigger.all.flatMap fun t =>
    let o := FlatProgram.output i (p.script t)
    o.remarks.toList ++ if o.complete then [] else [.cutOff t]

end SpriteStage
