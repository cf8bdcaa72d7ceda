import SpriteStage.Decimal.Reading
import SpriteStage.Trigonometry

/-!
# Positions and headings

A pose is a position on the stage, +y pointing down it, and a heading in degrees from 0 to below
360, where 0 points along +x and 90 along +y. `wrapHeading` takes every angle there.
-/

namespace SpriteStage

/-- The angle in `[0, 360)` that an angle in degrees stands for; an angle that is not finite
stands for 0. -/
def wrapHeading (degrees : Single) : Single :=
  if degrees.isFinite then
    let residue := degrees % 360
    let wrapped := if residue < 0 then residue + 360 else residue
    -- The sum above can round to a full turn.
    if 360 ≤ wrapped then 0 else wrapped
  else
    0

/-- The heading of a sprite that has none of its own. -/
def defaultHeading : Single := 90

/-- One degree in radians. -/
def radiansPerDegree : Single := .ofDecimal false ⟨17453292, -9⟩

/-- A position and a heading. -/
structure Pose where
  x : Single
  y : Single
  heading : Single
deriving DecidableEq

namespace Pose

/-- The pose at a position with the heading of an angle. -/
def facing (x y degrees : Single) : Pose := ⟨x, y, wrapHeading degrees⟩

instance : Inhabited Pose := ⟨Pose.facing 0 0 defaultHeading⟩

/-- The pose some steps further along the heading; negative steps go back. -/
def advance (pose : Pose) (steps : Single) : Pose :=
  let angle := pose.heading * radiansPerDegree
  { pose with
    x := pose.x + Trigonometry.cosine angle * steps
    y := pose.y + Trigonometry.sine angle * steps }

/-- The pose turned by an angle. -/
def turn (pose : Pose) (degrees : Single) : Pose :=
  { pose with heading := wrapHeading (pose.heading + degrees) }

/-- The pose at another position. -/
def goto (pose : Pose) (x y : Single) : Pose := { pose with x, y }

end Pose

end SpriteStage
