import SpriteStage.Binary.Basic

/-!
# Boxes and their intersections

Every sprite occupies a square box whose upper left corner is its position. Whether two boxes that
share no more than an edge or a corner are in contact is a matter of the contact mode.
-/

namespace SpriteStage

inductive ContactMode where
  /-- Boxes that share an edge or a corner are in contact. -/
  | touch
  /-- Boxes are in contact only if they share an area. -/
  | strict
deriving DecidableEq, Inhabited

def ContactMode.all : List ContactMode := [.touch, .strict]

def ContactMode.label : ContactMode → String
  | touch => "touch"
  | strict => "strict"

/-- A rectangle with sides along the axes, given by its corners. -/
structure Box where
  left : Single
  top : Single
  right : Single
  bottom : Single
deriving DecidableEq, Inhabited

namespace Box

/-- The square with a given upper left corner and side. -/
def square (x y size : Single) : Box := ⟨x, y, x + size, y + size⟩

def width (b : Box) : Single := b.right - b.left

def height (b : Box) : Single := b.bottom - b.top

/-- The rectangle between the greater of the upper left corners and the lesser of the lower right
ones. -/
def overlap (a b : Box) : Box :=
  ⟨a.left.greater b.left, a.top.greater b.top, a.right.lesser b.right, a.bottom.lesser b.bottom⟩

/-- Whether a box has any point at all, or in strict mode any area. -/
def isOccupied (mode : ContactMode) (b : Box) : Bool :=
  match mode with
  | .touch => b.left ≤ b.right ∧ b.top ≤ b.bottom
  | .strict => b.left < b.right ∧ b.top < b.bottom

/-- What two boxes share, if they are in contact. -/
def intersection? (mode : ContactMode) (a b : Box) : Option Box :=
  let shared := a.overlap b
  if shared.isOccupied mode then some shared else none

/-- Whether two boxes have a point in common. -/
def meets (a b : Box) : Bool := (a.intersection? .touch b).isSome

end Box

end SpriteStage
