import SpriteStage.Text.Blank

/-!
# Costumes

The catalog of costumes a sprite can be drawn with. A costume is found by its label, without regard
to ASCII case or to blanks around it.
-/

namespace SpriteStage

inductive Costume where
  | cat
  | dog
  | robot
  | alien
  | ball
  | beetle
deriving DecidableEq, Inhabited

namespace Costume

/-- All costumes in catalog order. -/
def catalog : List Costume := [cat, dog, robot, alien, ball, beetle]

def label : Costume → String
  | cat => "Cat"
  | dog => "Dog"
  | robot => "Robot"
  | alien => "Alien"
  | ball => "Ball"
  | beetle => "Beetle"

/-- The costume with a given label. -/
def ofName? (name : String) : Option Costume :=
  let wanted := Text.lowerCase (Text.trim name)
  catalog.find? fun costume => Text.lowerCase costume.label == wanted

end Costume

end SpriteStage
